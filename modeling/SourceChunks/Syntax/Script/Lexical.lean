import SourceChunks.Syntax.Rule
import SourceChunks.Syntax.Token

/-! The words, literals and operators of JavaScript, and the places where a line end stands for a
semicolon. -/

namespace SourceChunks.Script

/-! ### Space -/

/-- The end of a line, as far as comments and semicolons go. -/
def isLineEnd (c : Char) : Bool := c = '\n' || c.toNat = 0x2028 || c.toNat = 0x2029

def isSpace (c : Char) : Bool :=
  let n := c.toNat
  (9 ≤ n && n ≤ 13) || n = 0x20 || n = 0x85 || n = 0xa0 || n = 0x1680 || (0x2000 ≤ n && n ≤ 0x200b) ||
    n = 0x2028 || n = 0x2029 || n = 0x202f || n = 0x205f || n = 0x2060 || n = 0x3000 || n = 0xfeff

def lineLength (t : Text) : Nat := (t.takeWhile fun c => !(isLineEnd c || c = '\r')).length

def commentLength? (t : Text) : Option Nat :=
  match t with
  | '/' :: '/' :: cs => some (2 + lineLength cs)
  | '/' :: '*' :: cs => some (2 + Lexeme.commentLength cs)
  | _ => none

def spaceLength : Text → Nat
  | [] => 0
  | c :: cs =>
    match commentLength? (c :: cs) with
    | some n => n + spaceLength (cs.drop (n - 1))
    | none => if isSpace c then 1 + spaceLength cs else 0
termination_by t => t.length
decreasing_by all_goals simp only [List.length_drop, List.length_cons]; omega

/-- A comment of the markup kind, up to the end of its line. -/
def markupComment? (t : Text) : Option Nat :=
  if Text.startsWithAny t ["<!--", "-->"] then some (t.takeWhile (!isLineEnd ·)).length else none

def interpreterLine? (t : Text) : Option Nat :=
  if Text.startsWith t "#!" then some (t.takeWhile (· != '\n')).length else none

/-! ### Names -/

def signChars : Text := ":;`\"'@#.,|^&<=>+-*/\\%?!~()[]\x7b\x7d"

def isNameChar (c : Char) : Bool := 0x1f < c.toNat && !isSpace c && !signChars.contains c

def isHexDigit (c : Char) : Bool := c.isDigit || ('a' ≤ c && c ≤ 'f') || ('A' ≤ c && c ≤ 'F')

def escapeLength? (t : Text) : Option Nat :=
  match t with
  | '\\' :: 'u' :: '{' :: cs =>
    let digits := (cs.takeWhile isHexDigit).length
    if 0 < digits && (cs.drop digits).head? == some '}' then some (digits + 4) else none
  | '\\' :: 'u' :: cs => if (cs.take 4).length = 4 && (cs.take 4).all isHexDigit then some 6 else none
  | _ => none

def nameLength : Text → Nat
  | [] => 0
  | c :: cs =>
    match escapeLength? (c :: cs) with
    | some n => n + nameLength (cs.drop (n - 1))
    | none => if isNameChar c then 1 + nameLength cs else 0
termination_by t => t.length
decreasing_by all_goals simp only [List.length_drop, List.length_cons]; omega

/-- A name, also one that is a reserved word. -/
def anyName? (t : Text) : Option Nat :=
  if t.head?.any Char.isDigit || nameLength t = 0 then none else some (nameLength t)

/-- A name after a number sign. -/
def hiddenName? (t : Text) : Option Nat :=
  match t with
  | '#' :: cs => (anyName? cs).map (· + 1)
  | _ => none

def reservedWords : List Text :=
  List.map String.toList ["break", "case", "catch", "class", "const", "continue", "debugger", "default", "delete", "do", "else",
    "export", "extends", "false", "finally", "for", "function", "if", "import", "in", "instanceof", "new",
    "null", "return", "super", "switch", "this", "throw", "true", "try", "typeof", "var", "void", "while",
    "with"]

/-- Words that are not names where a value is expected. -/
def valueWords : List Text := ["await", "yield"]

def nameBut (words : List Text) (t : Text) : Option Nat :=
  (anyName? t).filter fun n => !words.contains (t.take n)

def name? (t : Text) : Option Nat := nameBut reservedWords t

def valueName? (t : Text) : Option Nat := nameBut (reservedWords ++ valueWords) t

def word? (w : String) (t : Text) : Option Nat :=
  if Text.startsWith t w.toList && nameLength (t.drop w.length) = 0 then some w.length else none

/-- The words `static get` and the end of their line, which are one token. -/
def staticGet? (t : Text) : Option Nat :=
  if Text.startsWith t "static" then
    let blanks := ((t.drop 6).takeWhile isSpace).length
    let after := t.drop (6 + blanks)
    let more := (after.drop 3).takeWhile isSpace
    let kept := (more.reverse.dropWhile (· != '\n')).length
    if 0 < blanks && Text.startsWith after "get" && 0 < kept then some (9 + blanks + kept) else none
  else none

/-! ### Literals -/

def string? (t : Text) : Option Nat :=
  match t with
  | c :: cs => if c = '"' || c = '\'' then some (1 + Lexeme.quoteLength [c] cs) else none
  | [] => none

/-- A string in markup, where a backslash is a character like others. -/
def markupString? (t : Text) : Option Nat :=
  match t with
  | c :: cs => if c = '"' || c = '\'' then some (2 + (cs.takeWhile (· != c)).length) else none
  | [] => none

def markupText? (t : Text) : Option Nat :=
  match (t.takeWhile fun c => c != '<' && c != '{').length with
  | 0 => none
  | n => some n

/-- A name in markup, which may hold hyphens. -/
def markupName? (t : Text) : Option Nat :=
  match t with
  | c :: cs =>
    if isNameChar c && !c.isDigit then
      some (1 + (cs.takeWhile fun d => isNameChar d || d == '-').length)
    else none
  | [] => none

/-- The length of the characters of a template up to its end or the next value in it. -/
def templateLength : Text → Nat
  | '\\' :: _ :: cs => 2 + templateLength cs
  | '$' :: '{' :: _ => 0
  | '`' :: _ => 0
  | _ :: cs => 1 + templateLength cs
  | [] => 0

def templateChars? (t : Text) : Option Nat :=
  match templateLength t with
  | 0 => none
  | n => some n

/-- The length of a regular expression up to and with the slash that ends it, inside or outside
square brackets. -/
def regexLength? (bracketed : Bool) : Text → Option Nat
  | [] | '\n' :: _ => none
  | '\\' :: c :: cs => if c = '\n' then none else (regexLength? bracketed cs).map (· + 2)
  | '/' :: cs => if bracketed then (regexLength? true cs).map (· + 1) else some 1
  | '[' :: cs => (regexLength? true cs).map (· + 1)
  | ']' :: cs => (regexLength? false cs).map (· + 1)
  | _ :: cs => (regexLength? bracketed cs).map (· + 1)

def regex? (t : Text) : Option Nat :=
  match t with
  | '/' :: cs =>
    (regexLength? false cs).map fun n => 1 + n + ((cs.drop n).takeWhile Char.isLower).length
  | _ => none

def isDigitOrLow (c : Char) : Bool := c.isDigit || c = '_'

def exponentLength (t : Text) : Nat :=
  match t with
  | c :: d :: cs =>
    if c = 'e' || c = 'E' then
      if d.isDigit then 2 + (cs.takeWhile isDigitOrLow).length
      else if (d = '+' || d = '-') && cs.head?.any Char.isDigit then 2 + (cs.takeWhile isDigitOrLow).length
      else 0
    else 0
  | _ => 0

def number? (t : Text) : Option Nat :=
  match t with
  | '0' :: c :: cs =>
    if "xXbBoO".toList.contains c then some (2 + (cs.takeWhile fun d => d.isAlphanum || d = '_').length)
    else decimal t
  | '.' :: c :: _ => if c.isDigit then decimal t else none
  | c :: _ => if c.isDigit then decimal t else none
  | [] => none
where
  /-- A decimal number, which may have a point, an exponent and a letter at its end. -/
  decimal (t : Text) : Option Nat :=
    let whole := (t.takeWhile isDigitOrLow).length
    let rest := t.drop whole
    let part := if rest.head? == some '.' then 1 + ((rest.drop 1).takeWhile isDigitOrLow).length else 0
    let power := exponentLength (rest.drop part)
    let letter := if (rest.drop (part + power)).head? == some 'n' then 1 else 0
    some (whole + part + power + letter)

/-! ### Operators -/

def longOperators : List Text :=
  List.map String.toList [">>>=", "...", "===", "!==", "**=", "<<=", ">>=", ">>>", "&&=", "||=", "??=", "=>", "==", "!=", "<=", ">=",
    "&&", "||", "??", "?.", "**", "++", "--", "+=", "-=", "*=", "/=", "%=", "&=", "|=", "^=", "<<", ">>"]

/-- The operator at the front, the longest one there is. A question mark, a point and a digit are a
question mark and a number. -/
def operatorAt (t : Text) : Text :=
  match longOperators.find? (Text.startsWith t) with
  | some o => if o == "?.".toList && (t.drop 2).head?.any Char.isDigit then ['?'] else o
  | none => t.take 1

def operator? (os : List Text) (t : Text) : Option Nat :=
  let o := operatorAt t
  if os.contains o then some o.length else none

def binaryOperators : List Text :=
  List.map String.toList ["+", "-", "*", "/", "%", "**", "<", "<=", ">", ">=", "==", "===", "!=", "!==", "<<", ">>", ">>>", "&", "^", "|",
    "&&", "||", "??"]

def assignmentOperators : List Text :=
  List.map String.toList ["=", "+=", "-=", "*=", "/=", "%=", "**=", "<<=", ">>=", ">>>=", "&=", "^=", "|=", "&&=", "||=", "??="]

def leadOperators : List String := ["++", "--", "+", "-", "!", "~"]

/-- Operators that cannot start a statement, so that what stands before one is a value. -/
def joiningOperators : List Text :=
  List.map String.toList [".", "?.", "?", ",", "*", "**", "%", "===", "==", "!=", "!==", "<=", ">", ">=", "<<", ">>", ">>>", "&", "&&",
    "|", "||", "^", "??"]

/-! ### Semicolons -/

/-- After a line end, a statement goes on with one of these. -/
def continuingChars : Text := "`,:;*%><=[(?^|&/"

def beginsStatement (t : Text) : Bool :=
  match t with
  | '.' :: cs => cs.head?.any Char.isDigit
  | '+' :: cs => cs.head? == some '+'
  | '-' :: cs => cs.head? == some '-'
  | '!' :: cs => cs.head? != some '='
  | 'i' :: 'n' :: cs =>
    if !cs.head?.any Char.isAlpha then false
    else !(Text.startsWith cs "stanceof" && !(cs.drop 8).head?.any Char.isAlpha)
  | c :: _ => !continuingChars.contains c
  | [] => true

/-- Neither a comma nor an equals sign comes next. -/
def startsAfresh (t : Text) : Bool := !t.head?.any fun c => c = ',' || c = '='

/-- The place after a token stands for a semicolon: the text or the braces end, or the line does and
what follows begins a statement. After a word that is no value, a comment with a line end is enough. -/
def endsStatement (afterValue : Bool) : Text → Bool
  | [] => true
  | c :: cs =>
    match commentLength? (c :: cs) with
    | some n =>
      let after := cs.drop (n - 1)
      if !afterValue && cs.head? == some '/' then startsAfresh (after.drop (spaceLength after))
      else if !afterValue && (cs.take (n - 1)).any isLineEnd then startsAfresh after
      else endsStatement afterValue after
    | none =>
      if c = '}' then true
      else if isLineEnd c then beginsStatement (cs.drop (spaceLength cs))
      else if isSpace c then endsStatement afterValue cs
      else false
termination_by t => t.length
decreasing_by all_goals simp only [List.length_drop, List.length_cons]; omega

end SourceChunks.Script
