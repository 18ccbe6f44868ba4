import SourceChunks.Pattern.Basic

/-! The vocabulary in which patterns are written: literals, character classes, repetitions and
places. `p ++ q` is one after the other and `p <|> q` the first or else the second. -/

namespace SourceChunks.Pattern

instance : Append Pattern := ⟨.seq⟩

instance : OrElse Pattern := ⟨fun p q => .alt p (q ())⟩

/-! ### Literals -/

def ofChars : Text → Pattern
  | [] => .empty
  | [c] => .one (· == c)
  | c :: cs => .seq (.one (· == c)) (ofChars cs)

def lit (s : String) : Pattern := ofChars s.toList

/-- Equal up to the case of the letter `x`. Three letters have more than two forms: `i` the dotted
and the dotless one, `k` the Kelvin sign, `s` the long s. -/
def sameLetter (x c : Char) : Bool :=
  c.toLower == x.toLower ||
    match x.toLower with
    | 'i' => c.toNat == 0x130 || c.toNat == 0x131
    | 'k' => c.toNat == 0x212a
    | 's' => c.toNat == 0x17f
    | _ => false

def anyCase (s : String) : Pattern :=
  s.toList.foldr (fun x p => .seq (.one (sameLetter x)) p) .empty

/-- One of several patterns, tried in order. -/
def choice : List Pattern → Pattern
  | [] => .here fun _ _ => false
  | [p] => p
  | p :: ps => .alt p (choice ps)

def oneOf (words : List String) : Pattern := choice (words.map lit)

def oneOfAnyCase (words : List String) : Pattern := choice (words.map anyCase)

/-! ### Character classes -/

def among (cs : Text) (c : Char) : Bool := cs.contains c

def butNot (cs : Text) (c : Char) : Bool := !cs.contains c

def wordOr (cs : Text) (c : Char) : Bool := isWordChar c || cs.contains c

def letterOr (cs : Text) (c : Char) : Bool := c.isAlpha || cs.contains c

def onLine (c : Char) : Bool := c != '\n'

def anyOf (cs : Text) : Pattern := .one (among cs)

/-! ### Repetition -/

/-- Any number of characters of a class, as many as possible. -/
def manyOf (p : Char → Bool) : Pattern := .run p 0 none .greedy

/-- One or more characters of a class, as many as possible. -/
def someOf (p : Char → Bool) : Pattern := .run p 1 none .greedy

/-- Any number of characters of a class, as few as possible. -/
def fewestOf (p : Char → Bool) : Pattern := .run p 0 none .reluctant

def opt (p : Pattern) : Pattern := .alt p .empty

def star (p : Pattern) : Pattern := .many p 0 none .greedy

/-- Blanks, possibly none. -/
def blanks : Pattern := manyOf isBlank

/-- At least one blank. -/
def gap : Pattern := someOf isBlank

/-! ### Places -/

/-- A place where the condition on the characters before and after holds. -/
def between (test : Option Char → Option Char → Bool) : Pattern :=
  .here fun before rest => test before rest.head?

def textStart : Pattern := between fun before _ => before.isNone

/-- The start of the text or of a line. -/
def lineStart : Pattern := between fun before _ => before.isNone || before == some '\n'

/-- The end of the text, or the place before a newline that ends it. -/
def textEnd : Pattern := .here fun _ rest => rest == [] || rest == ['\n']

/-- A place where a word begins or ends. -/
def wordEdge : Pattern :=
  between fun before after => (before.any isWordChar) != (after.any isWordChar)

def notAfter (p : Char → Bool) : Pattern := between fun before _ => !before.any p

def notBefore (p : Char → Bool) : Pattern := between fun _ after => !after.any p

/-- One of several words, with a word edge on both sides. -/
def wholeWord (words : List String) : Pattern := wordEdge ++ oneOf words ++ wordEdge

/-- A name: a letter or one of `extra`, then word characters or some of `extraInside`. -/
def nameOf (extra extraInside : Text) : Pattern :=
  .one (letterOr extra) ++ manyOf (wordOr extraInside)

def dollarName : Pattern := nameOf "_$" "$"

def plainName : Pattern := nameOf "_" []

def wordRun : Pattern := someOf isWordChar

end SourceChunks.Pattern
