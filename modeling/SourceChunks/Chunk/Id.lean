import SourceChunks.Path

/-! Identities of chunks: the snapshot, the file name and the range of lines, in a restricted
alphabet. When an identity is taken, the first free number is put behind it. -/

namespace SourceChunks.ChunkId

def isSafe (c : Char) : Bool := c.isAlphanum || c == '_' || c == '.' || c == '-'

def sanitise (t : Text) : Text := t.map fun c => if isSafe c then c else '_'

def ofLabel (snapshot path label : Text) : Text :=
  sanitise (snapshot ++ "_" ++ (FilePath.ofText path).name ++ "_" ++ label)

def make (snapshot path : Text) (first last : Int) (suffix : Text) : Text :=
  ofLabel snapshot path (Text.ofInt first ++ "-" ++ Text.ofInt last ++ suffix)

def numbered (id : Text) (n : Nat) : Text := id ++ "_" ++ Text.ofNat n

/-- The first free number from `n` on. -/
def freshFrom (seen : List Text) (id : Text) : (fuel n : Nat) → Text
  | 0, n => numbered id n
  | fuel + 1, n =>
    if seen.contains (numbered id n) then freshFrom seen id fuel (n + 1) else numbered id n

/-- The identity itself when it is free, or else with the first free number. One of the first
`seen.length + 1` numbers is free. -/
def fresh (seen : List Text) (id : Text) : Text :=
  if seen.contains id then freshFrom seen id seen.length 1 else id

/-- Distinct identities for a list of wanted ones, in order. -/
def allocate (seen : List Text) : List Text → List Text
  | [] => []
  | id :: ids =>
    let free := fresh seen id
    free :: allocate (free :: seen) ids

end SourceChunks.ChunkId
