import SourceChunks.Cutting.Windows
import SourceChunks.Outline.Recogniser
import SourceChunks.Settings.Basic

/-! Ranges along declarations: small neighbours share a range, large declarations are cut into
windows, and what lies between joins a neighbour or becomes a range of its own. -/

namespace SourceChunks.Cutting

/-- A range of lines and the names declared there, unless they are yet to be looked for. -/
structure Piece extends Range where
  symbols : Option (List Text)

/-! ### Large declarations -/

/-- The last boundary from `stop` down to but not including `low`. -/
def boundaryDown (isBoundary : Text → Bool) (ls : List Text) (low : Int) : (fuel : Nat) → (stop : Int) → Option Int
  | 0, _ => none
  | fuel + 1, stop =>
    if low < stop then
      if (lineAt? ls stop).any isBoundary then some stop else boundaryDown isBoundary ls low fuel (stop - 1)
    else none

/-- Where a window that begins at `start` ends: at the last boundary of its last quarter if there is
one, and at the end of the declaration if that is near enough. -/
def windowEnd (isBoundary : Text → Bool) (ls : List Text) (size : Nat) (last start : Int) : Int :=
  let stop := min (start + size - 1) last
  if stop < last then
    let low := start + (size * 3 / 4 : Nat)
    (boundaryDown isBoundary ls low (stop - low).toNat stop).getD stop
  else stop

def largeFrom (isBoundary : Text → Bool) (ls : List Text) (size : Nat) (step last : Int) :
    (fuel : Nat) → (start : Int) → List Range
  | 0, _ => []
  | fuel + 1, start =>
    if start ≤ last then
      let stop := windowEnd isBoundary ls size last start
      ⟨start, stop⟩ ::
        if stop = last then []
        else largeFrom isBoundary ls size step last fuel (max (start + 1) (min (start + step) (stop + 1)))
    else []

/-- The windows over a declaration longer than a chunk; the first one carries its name. -/
def largePieces (s : Settings) (isBoundary : Text → Bool) (ls : List Text) (n : Node) : List Piece :=
  let step : Int := max 1 ((s.chunkSize : Int) - (min s.chunkOverlap (s.chunkSize / 4) : Nat))
  (largeFrom isBoundary ls s.chunkSize step n.last n.lineCount.toNat n.first).map fun r =>
    { r with symbols := some (if r.first = n.first then [n.name] else []) }

/-! ### Small declarations -/

def batchPiece : List Node → List Piece
  | [] => []
  | n :: ns =>
    [{ first := n.first, last := ns.foldl (fun l m => max l m.last) n.last,
       symbols := some ((n :: ns).map (·.name)) }]

/-- The declaration would make the batch longer than a chunk. -/
def overflows (size : Nat) (batch : List Node) (n : Node) : Bool :=
  match batch with
  | [] => false
  | b :: _ => n.last - b.first + 1 > size

/-- The pieces of the declarations after an open batch. -/
def piecesFrom (s : Settings) (isBoundary : Text → Bool) (ls : List Text) :
    (batch : List Node) → List Node → List Piece
  | batch, [] => batchPiece batch
  | batch, n :: ns =>
    if n.lineCount > s.chunkSize then
      batchPiece batch ++ largePieces s isBoundary ls n ++ piecesFrom s isBoundary ls [] ns
    else if overflows s.chunkSize batch n then batchPiece batch ++ piecesFrom s isBoundary ls [n] ns
    else piecesFrom s isBoundary ls (batch ++ [n]) ns

/-! ### Gaps -/

def gapPieces (size : Nat) (first last : Int) : List Piece :=
  (windows size 0 first last).map fun r => { r with symbols := none }

def hasText (ls : List Text) : Bool := ls.any fun l => !Text.allBlank l

/-- The gap before a piece is short, and the two fit into one chunk with its overlap. -/
def foldsIn (s : Settings) (cursor : Int) (p : Piece) : Bool :=
  p.first - cursor < max 1 s.chunkOverlap && p.last - cursor + 1 ≤ s.chunkSize + s.chunkOverlap

/-- The pieces with the gaps before them filled, everything before `cursor` being covered; and the
first line that is not covered. -/
def fillFrom (s : Settings) (ls : List Text) : (cursor : Int) → List Piece → List Piece × Int
  | cursor, [] => ([], cursor)
  | cursor, p :: ps =>
    let here :=
      if p.first > cursor then
        if foldsIn s cursor p then [{ p with first := cursor }]
        else if hasText (slice ls cursor p.first) then gapPieces s.chunkSize cursor (p.first - 1) ++ [p]
        else [p]
      else [p]
    let (rest, done) := fillFrom s ls (max cursor (p.last + 1)) ps
    (here ++ rest, done)

/-- The pieces with all gaps filled; lines left at the end go to the last piece if they fit. -/
def fillGaps (s : Settings) (ls : List Text) (ps : List Piece) : List Piece :=
  let (filled, cursor) := fillFrom s ls 0 ps
  let final := (ls.length : Int) - 1
  if cursor ≤ final && hasText (slice ls cursor ls.length) then
    match filled.getLast? with
    | some p =>
      if (ls.length : Int) - p.first ≤ s.chunkSize then filled.dropLast ++ [{ p with last := final }]
      else filled ++ gapPieces s.chunkSize cursor final
    | none => gapPieces s.chunkSize cursor final
  else filled

def declarationPieces (s : Settings) (isBoundary : Text → Bool) (ls : List Text) (ns : List Node) :
    List Piece :=
  fillGaps s ls (piecesFrom s isBoundary ls [] ns)

end SourceChunks.Cutting
