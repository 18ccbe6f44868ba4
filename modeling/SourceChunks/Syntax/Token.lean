import SourceChunks.Syntax.Tree

/-! Tokens. A scanner says what stands at the front of a text and how far it reaches; the tokens of a
text follow each other without gaps, so together they spell it. -/

namespace SourceChunks

inductive TokenKind where
  | blank
  /-- The end of a line, where lines count. -/
  | lineEnd
  | comment
  | word
  | number
  | string
  | symbol
  | opening
  | closing
  deriving DecidableEq, Repr

structure Token where
  kind : TokenKind
  text : Text
  start : Mark
  stop : Mark
  deriving DecidableEq, Repr

namespace Token

def isWord (t : Token) (w : String) : Bool := t.kind == .word && t.text == w.toList

def isWordOf (t : Token) (ws : List String) : Bool := ws.any t.isWord

def isSymbol (t : Token) (s : String) : Bool := t.kind == .symbol && t.text == s.toList

/-- The token is more than space and comment. -/
def isSignificant (t : Token) : Bool :=
  match t.kind with
  | .blank | .lineEnd | .comment => false
  | _ => true

def toTree (t : Token) (role : SyntaxRole) : SyntaxTree := .node .token role t.text t.start t.stop []

end Token

/-! ### Scanning -/

/-- What stands at the front of a text, and how many characters it has after its first one. -/
structure Lexeme where
  kind : TokenKind
  more : Nat

/-- A scanner reads one lexeme at a time and may look back through its state. -/
structure Scanner (σ : Type) where
  initial : σ
  next : σ → Text → Lexeme
  after : σ → Token → σ

namespace Scanner

variable {σ : Type}

def tokensFrom (s : Scanner σ) (state : σ) (mark : Mark) : Text → List Token
  | [] => []
  | c :: cs =>
    let l := s.next state (c :: cs)
    let text := c :: cs.take l.more
    let token : Token := ⟨l.kind, text, mark, mark.after text⟩
    token :: s.tokensFrom (s.after state token) token.stop (cs.drop l.more)
termination_by t => t.length
decreasing_by simp only [List.length_drop, List.length_cons]; omega

def tokens (s : Scanner σ) (t : Text) : List Token := s.tokensFrom s.initial .zero t

end Scanner

/-! ### Lengths -/

namespace Lexeme

def isOpening (c : Char) : Bool := c = '(' || c = '[' || c = '{'

def isClosing (c : Char) : Bool := c = ')' || c = ']' || c = '}'

def fixed (kind : TokenKind) (length : Nat) : Lexeme := ⟨kind, length - 1⟩

/-- A first character and all that follow with a property. -/
def run (kind : TokenKind) (p : Char → Bool) (t : Text) : Lexeme := ⟨kind, (t.tail.takeWhile p).length⟩

def line (t : Text) : Lexeme := run .comment (· != '\n') t

/-- The length of a text up to and with a closing quote that no backslash stands before. -/
def quoteLength (quote : Text) : Text → Nat
  | [] => 0
  | c :: cs =>
    if Text.startsWith (c :: cs) quote then quote.length
    else if c = '\\' then 2 + quoteLength quote (cs.drop 1)
    else 1 + quoteLength quote cs
termination_by t => t.length
decreasing_by
  · simp only [List.length_drop, List.length_cons]; omega
  · simp

/-- A string with the same quote at both ends, after a front of some length. -/
def quoted (front : Nat) (quote : Text) (t : Text) : Lexeme :=
  fixed .string (front + quote.length + quoteLength quote (t.drop (front + quote.length)))

/-- The length of a text up to and with the end of a comment. -/
def commentLength : Text → Nat
  | [] => 0
  | '*' :: '/' :: _ => 2
  | _ :: cs => 1 + commentLength cs

def comment (t : Text) : Lexeme := fixed .comment (2 + commentLength (t.drop 2))

/-- A symbol: the first of several that fits, or one character. -/
def symbol (longer : List String) (t : Text) : Lexeme :=
  match longer.find? fun s => Text.startsWith t s.toList with
  | some s => fixed .symbol s.length
  | none => ⟨.symbol, 0⟩

end Lexeme

end SourceChunks
