import SourceChunks.Syntax.StringPart

/-! Logical lines of Python: a line of source together with the lines that an open bracket, a long
string or a backslash joins to it. A comment on a line of its own belongs to the logical line before
it, where it waits to be claimed by a block. -/

namespace SourceChunks

/-! ### Tokens -/

namespace LogicalLine

/-- Blanks, among them those without width. -/
def isSpace (c : Char) : Bool :=
  isBlank c || c.toNat = 0xfeff || c.toNat = 0x2060 || c.toNat = 0x200b

def longSymbols : List String :=
  ["**=", "//=", ">>=", "<<=", "...", "==", "!=", "<=", ">=", ":=", "->", "+=", "-=", "*=", "/=", "%=",
    "@=", "&=", "|=", "^=", ">>", "<<", "**", "//"]

/-- A backslash and the end of its line. -/
def continuation? : Text → Option Lexeme
  | '\\' :: '\n' :: _ => some (.fixed .blank 2)
  | '\\' :: '\r' :: '\n' :: _ => some (.fixed .blank 3)
  | _ => none

/-- The lexeme at the front of a text with `depth` brackets open. -/
def next (depth : Nat) (t : Text) : Lexeme :=
  match StringPart.lexeme? t, continuation? t, t with
  | some l, _, _ | none, some l, _ => l
  | none, none, '\n' :: _ => ⟨if depth = 0 then .lineEnd else .blank, 0⟩
  | none, none, '#' :: _ => .line t
  | none, none, c :: _ =>
    if isSpace c then .run .blank (fun d => isSpace d && d != '\n') t
    else if isNameStart c then .run .word isNameRest t
    else if isNameRest c || (c = '.' && (t.drop 1).head?.any Char.isDigit) then .run .number isNameRest t
    else if Lexeme.isOpening c then ⟨.opening, 0⟩
    else if Lexeme.isClosing c then ⟨.closing, 0⟩
    else .symbol longSymbols t
  | none, none, [] => ⟨.blank, 0⟩

def depthAfter (depth : Nat) (t : Token) : Nat :=
  match t.kind with
  | .opening => depth + 1
  | .closing => depth - 1
  | _ => depth

def scanner : Scanner Nat := ⟨0, next, depthAfter⟩

end LogicalLine

/-! ### Lines -/

structure OwnComment where
  indent : Nat
  stop : Mark

structure LogicalLine where
  indent : Nat
  /-- The tokens that are more than space and comment. -/
  tokens : List Token
  /-- The end of the line, with a comment on it. -/
  stop : Mark
  comments : List OwnComment

namespace LogicalLine

/-- Characters that count for the width of the space in front of a line, or may stand between such. -/
def isIndent (c : Char) : Bool := " \t\r\x0c\\\n".toList.contains c

/-- The width of the space in front of a line: a tab counts eight, and a return starts again. -/
def width (t : Text) : Nat :=
  (t.takeWhile isIndent).foldl (fun n c => if c = ' ' then n + 1 else if c = '\t' then n + 8
    else if c = '\r' || c = '\x0c' then 0 else n) 0

def rows : List Token → List (List Token)
  | [] => [[]]
  | t :: ts =>
    if t.kind = .lineEnd then [] :: rows ts
    else match rows ts with
      | row :: more => (t :: row) :: more
      | [] => [[t]]

def rowIndent (row : List Token) : Nat := width ((row.takeWhile (·.kind = .blank)).flatMap Token.text)

/-- The comments before the first logical line of the rows, and the logical lines. -/
def gather : List (List Token) → List OwnComment × List LogicalLine
  | [] => ([], [])
  | row :: more =>
    let (comments, lines) := gather more
    let solid := row.filter (·.kind != .blank)
    match solid.getLast? with
    | none => (comments, lines)
    | some final =>
      let tokens := solid.filter (·.isSignificant)
      if tokens.isEmpty then (⟨rowIndent row, final.stop⟩ :: comments, lines)
      else ([], ⟨rowIndent row, tokens, final.stop, comments⟩ :: lines)

def ofText (t : Text) : List LogicalLine := (gather (rows (scanner.tokens t))).2

def startsWithSymbol (l : LogicalLine) (s : String) : Bool := l.tokens.head?.any (·.isSymbol s)

def start (l : LogicalLine) : Mark := (l.tokens.head?.map (·.start)).getD .zero

def tokenStop (l : LogicalLine) : Mark := (l.tokens.getLast?.map (·.stop)).getD l.stop

/-- The line ends with a colon, so that a block may follow. -/
def opensBlock (l : LogicalLine) : Bool := l.tokens.getLast?.any (·.isSymbol ":")

/-- The block below a line: the lines after it as deep as the first of them, which has to be deeper
than the block that the line stands in. -/
def below (outer : Nat) (l : LogicalLine) (rest : List LogicalLine) : List LogicalLine :=
  match rest with
  | [] => []
  | first :: _ =>
    if l.opensBlock && outer < first.indent then rest.takeWhile (first.indent ≤ ·.indent) else []

theorem isPrefix_below (outer : Nat) (l : LogicalLine) (rest : List LogicalLine) :
    l.below outer rest <+: rest := by
  unfold below
  split
  · exact List.prefix_rfl
  · split
    · exact List.takeWhile_prefix _
    · exact List.nil_prefix

end LogicalLine

end SourceChunks
