import SourceChunks.Syntax.Rule
import SourceChunks.Syntax.Token
import SourceChunks.Text.NameChar

/-! The words, literals and operators of Java. -/

namespace SourceChunks.Typed

/-! ### Space -/

/-- Blanks, among which the separators of files and records do not count. -/
def isSpace (c : Char) : Bool := isBlank c && !(0x1c ≤ c.toNat && c.toNat ≤ 0x1f)

def commentLength? (t : Text) : Option Nat :=
  match t with
  | '/' :: '/' :: cs => some (2 + (cs.takeWhile (· != '\n')).length)
  | '/' :: '*' :: cs => some (2 + Lexeme.commentLength cs)
  | _ => none

def spaceLength : Text → Nat
  | [] => 0
  | c :: cs =>
    match commentLength? (c :: cs) with
    | some n => n + spaceLength (cs.drop (n - 1))
    | none => if isSpace c then 1 + spaceLength cs else 0
termination_by t => t.length
decreasing_by all_goals simp only [List.length_drop, List.length_cons]; omega

/-! ### Names -/

/-- Characters of names, among them the dollar and the cent. -/
def isNameChar (c : Char) : Bool := isNameRest c || c = '$' || c.toNat = 0xa2

def reservedWords : List Text :=
  List.map String.toList
    ["abstract", "assert", "boolean", "break", "byte", "case", "catch", "char", "class", "continue",
      "default", "do", "double", "else", "enum", "extends", "false", "final", "finally", "float", "for",
      "if", "implements", "import", "instanceof", "int", "interface", "long", "native", "new", "null",
      "package", "private", "protected", "public", "return", "short", "static", "strictfp", "super",
      "switch", "synchronized", "this", "throw", "throws", "transient", "true", "try", "void",
      "volatile", "while"]

def anyName? (t : Text) : Option Nat :=
  match t with
  | c :: cs => if isNameStart c || c = '$' then some (1 + (cs.takeWhile isNameChar).length) else none
  | [] => none

def name? (t : Text) : Option Nat := (anyName? t).filter fun n => !reservedWords.contains (t.take n)

def word? (w : String) (t : Text) : Option Nat :=
  if Text.startsWith t w.toList && !(t.drop w.length).head?.any isNameChar then some w.length else none

/-! ### Literals -/

def character? (t : Text) : Option Nat :=
  match t with
  | '\'' :: cs => some (1 + Lexeme.quoteLength ['\''] cs)
  | _ => none

/-- The length of the characters of a string up to its quotes or the next value in it. -/
def stringLength (quote : Text) : Text → Nat
  | [] => 0
  | '\\' :: c :: cs => if c = '{' then 0 else 2 + stringLength quote cs
  | c :: cs => if Text.startsWith (c :: cs) quote then 0 else 1 + stringLength quote cs

def stringChars? (quote : String) (t : Text) : Option Nat :=
  match stringLength quote.toList t with
  | 0 => none
  | n => some n

def isNumberChar (c : Char) : Bool := c.isAlphanum || c = '_' || c = '.'

/-- The length of a number after its first character. A sign may follow the letter of an exponent. -/
def numberLength (exponents : Text) : Text → Nat
  | [] => 0
  | c :: cs =>
    if isNumberChar c then
      match cs with
      | d :: ds =>
        if exponents.contains c && (d = '+' || d = '-') then 2 + numberLength exponents ds
        else 1 + numberLength exponents (d :: ds)
      | [] => 1
    else 0

def number? (t : Text) : Option Nat :=
  match t with
  | '0' :: c :: cs =>
    if c = 'x' || c = 'X' then some (2 + numberLength "pP" cs) else some (1 + numberLength "eE" (c :: cs))
  | '.' :: c :: cs => if c.isDigit then some (1 + numberLength "eE" (c :: cs)) else none
  | c :: cs => if c.isDigit then some (1 + numberLength "eE" cs) else none
  | [] => none

/-! ### Operators -/

def longOperators : List Text :=
  List.map String.toList
    [">>>=", "<<=", ">>=", ">>>", "...", "->", "::", "==", "!=", "<=", ">=", "&&", "||", "++", "--",
      "+=", "-=", "*=", "/=", "%=", "&=", "|=", "^=", "<<", ">>"]

/-- The operator at the front, the longest one there is. -/
def operatorAt (t : Text) : Text := (longOperators.find? (Text.startsWith t)).getD (t.take 1)

def operator? (os : List Text) (t : Text) : Option Nat :=
  let o := operatorAt t
  if os.contains o then some o.length else none

def binaryOperators : List Text :=
  List.map String.toList
    ["+", "-", "*", "/", "%", "<", "<=", ">", ">=", "==", "!=", "<<", ">>", ">>>", "&", "^", "|",
      "&&", "||", "=", "+=", "-=", "*=", "/=", "%=", "<<=", ">>=", ">>>=", "&=", "^=", "|="]

end SourceChunks.Typed
