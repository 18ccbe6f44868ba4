import SourceChunks.Failure

/-! Paths: a root mark and components, with empty and single-dot components left out. -/

namespace SourceChunks

/-- A path. `slashes` is 0 for a relative path, 1 for an absolute one, and 2 for one that starts
with exactly two slashes. -/
structure FilePath where
  slashes : Nat
  parts : List Text
  deriving DecidableEq, Repr

namespace FilePath

def significant (ps : List Text) : List Text := ps.filter fun p => p != [] && p != ['.']

def ofText (t : Text) : FilePath :=
  let lead := (t.takeWhile (· == '/')).length
  ⟨if lead = 2 then 2 else min lead 1, significant (Text.split '/' t)⟩

def root (p : FilePath) : Text := List.replicate p.slashes '/'

/-- The path as a text; a dot when there is nothing else to write. -/
def text (p : FilePath) : Text :=
  if p.slashes = 0 && p.parts.isEmpty then ['.'] else p.root ++ Text.join ['/'] p.parts

/-- The final component, empty when there is none. -/
def name (p : FilePath) : Text := (p.parts.getLast?).getD []

/-- A name cut before its last dot, unless the dot comes first or last. -/
def cutName (n : Text) : Text × Text :=
  match Text.splitLast? '.' n with
  | some (before, after) => if before.isEmpty || after.isEmpty then (n, []) else (before, '.' :: after)
  | none => (n, [])

def stem (p : FilePath) : Text := (cutName p.name).1

def extension (p : FilePath) : Text := (cutName p.name).2

def directories (p : FilePath) : List Text := p.parts.dropLast

/-- The path without the extension; it needs a final component. -/
def withoutExtension (p : FilePath) : Except Failure FilePath :=
  if p.name.isEmpty then .error (.emptyName p.text)
  else .ok { p with parts := p.directories ++ [p.stem] }

/-! ### Normal form -/

/-- The components with double dots worked off; at the root they have no effect. -/
def normalise (parts : List Text) : List Text :=
  parts.foldl (fun done p => if p == "..".toList then done.dropLast else done ++ [p]) []

/-- The components of `t` seen from the absolute directory `base`, worked off. -/
def resolve (base : List Text) (t : Text) : List Text :=
  let p := ofText t
  normalise (if p.slashes = 0 then base ++ p.parts else p.parts)

end FilePath

end SourceChunks
