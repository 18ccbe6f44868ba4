import SourceChunks.Syntax.Token
import SourceChunks.Text.NameChar

/-! Strings of Python. In a string with format, braces hold values; a value may have a format of its
own after it, which may hold values again, and a value may hold strings with any quotes. -/

namespace SourceChunks

inductive StringPart where
  /-- Among the characters of a string, where a backslash may be plain and braces may hold values. -/
  | chars (quote : Text) (plain format : Bool)
  | value
  | brackets
  | format

namespace StringPart

def letters : Text := "rRbBuUfFtT"

def quotes : List Text := ["\"\"\"", "'''", "\"", "'", "`"]

/-- The string that starts at the front of a text, and the length of its letters and quotes. -/
def start? (t : Text) : Option (StringPart × Nat) :=
  let front := t.takeWhile letters.contains
  (quotes.find? fun q => Text.startsWith (t.drop front.length) q).map fun q =>
    (chars q (front.any "rR".toList.contains) (front.any "fFtT".toList.contains), front.length + q.length)

/-- The length of a backslash together with what it is written for. -/
def escapeLength (quote : Text) (plain format : Bool) (after : Text) : Nat :=
  match after with
  | [] => 1
  | c :: cs =>
    if plain then if quote.contains c || c = '\\' then 2 else 1
    else if format && (c = '{' || c = '}') then 1
    else if format && c = 'N' && cs.head? == some '{' then 3 + (cs.takeWhile (· != '}')).length
    else 2

def valueLength (t : Text) : Nat :=
  if t.head? == some '#' then (t.takeWhile (· != '\n')).length else max 1 (t.takeWhile isNameRest).length

def valueStep (open_ : List StringPart) (t : Text) : Nat × List StringPart :=
  match start? t, t with
  | some (inner, n), _ => (n, inner :: open_)
  | none, c :: _ =>
    if Lexeme.isClosing c then (1, open_.tail)
    else (valueLength t, if Lexeme.isOpening c then brackets :: open_ else open_)
  | none, [] => (0, open_)

/-- A step through a string: the length of what stands at the front of the text, and the parts that
are open after it, the innermost first. -/
def step (p : StringPart) (outer : List StringPart) (t : Text) : Nat × List StringPart :=
  match p, t with
  | chars quote plain formatted, t =>
    if Text.startsWith t quote then (quote.length, outer)
    else match t with
      | '\\' :: cs => (escapeLength quote plain formatted cs, p :: outer)
      | '{' :: '{' :: _ => (2, p :: outer)
      | '{' :: _ => (1, if formatted then value :: p :: outer else p :: outer)
      | _ => (1, p :: outer)
  | format, '{' :: _ => (1, value :: p :: outer)
  | format, '}' :: _ => (1, outer)
  | format, _ => (1, p :: outer)
  | value, ':' :: _ => (1, format :: outer)
  | value, t | brackets, t => valueStep (p :: outer) t

/-- The length of a text up to the end of the outermost part that is open. -/
def lengthFrom : List StringPart → Text → Nat
  | [], _ | _ :: _, [] => 0
  | p :: outer, c :: cs =>
    let (n, parts) := p.step outer (c :: cs)
    1 + (n - 1) + lengthFrom parts (cs.drop (n - 1))
termination_by _ t => t.length
decreasing_by simp only [List.length_drop, List.length_cons]; omega

def lexeme? (t : Text) : Option Lexeme :=
  (start? t).map fun (p, n) => .fixed .string (n + lengthFrom [p] (t.drop n))

end StringPart

end SourceChunks
