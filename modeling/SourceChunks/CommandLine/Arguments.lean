import SourceChunks.Strategy.Registry

/-! The arguments of the command line. A long option may be shortened as long as one option is
meant, a value follows as the next argument or after an equals sign, and one-letter switches may be
joined. The paths stand together in one place; after a double dash everything is a path. -/

namespace SourceChunks.CommandLine

structure Options where
  paths : List Text := []
  strategy : Option StrategyName := none
  snapshot : Text := "local"
  validate : Bool := false
  verbose : Bool := false

/-- Why nothing is run. -/
inductive Refusal where
  /-- The arguments do not fit. -/
  | usage
  | help
  deriving DecidableEq, Repr

/-! ### Options -/

/-- Options without a value. -/
inductive Switch where
  | help | validate | verbose
  deriving DecidableEq, Repr

/-- Options with a value. -/
inductive Setting where
  | strategy | snapshot
  deriving DecidableEq, Repr

inductive Meaning where
  | switch (s : Switch)
  | setting (s : Setting)
  deriving DecidableEq, Repr

def spellings : List (String × Meaning) :=
  [("-h", .switch .help), ("--help", .switch .help), ("--strategy", .setting .strategy),
    ("--snapshot-id", .setting .snapshot), ("--validate", .switch .validate),
    ("--verbose", .switch .verbose), ("-v", .switch .verbose)]

def meaning? (t : Text) : Option Meaning :=
  (spellings.find? fun s => s.1.toList == t).map (·.2)

/-- The options whose spelling starts so. -/
def meanings (t : Text) : List Meaning :=
  (spellings.filter fun s => Text.startsWith s.1.toList t).map (·.2)

/-! ### One argument -/

inductive Argument where
  /-- A path, or the value of the option before it. -/
  | operand (t : Text)
  | separator
  | switches (ss : List Switch)
  | setting (s : Setting) (value : Option Text)
  /-- A switch with a value. -/
  | overfull
  /-- No option that is known, after switches that are. -/
  | unknown (ss : List Switch)

def Argument.ofMeaning : Meaning → Option Text → Argument
  | .switch s, none => .switches [s]
  | .switch _, some _ => .overfull
  | .setting s, value => .setting s value

def splitValue (t : Text) : Text × Option Text :=
  match t.dropWhile (· != '=') with
  | [] => (t, none)
  | _ :: value => (t.takeWhile (· != '='), some value)

/-- One-letter switches joined together, after those already read. -/
def Argument.ofLetters (ss : List Switch) : Text → Argument
  | [] => .switches ss
  | '-' :: _ | '=' :: _ => .overfull
  | c :: cs =>
    match meaning? ['-', c] with
    | some (.switch s) => ofLetters (ss ++ [s]) cs
    | _ => .unknown ss

def isNegativeNumber : Text → Bool
  | '-' :: ds =>
    let whole := ds.takeWhile isDecimalDigit
    match ds.dropWhile isDecimalDigit with
    | [] => !whole.isEmpty
    | ['\n'] => !whole.isEmpty
    | '.' :: fraction =>
      let places := fraction.takeWhile isDecimalDigit
      !places.isEmpty && [[], ['\n']].contains (fraction.dropWhile isDecimalDigit)
    | _ => false
  | _ => false

/-- An argument with a dash in front that is no option: numbers and texts with a space are operands. -/
def Argument.ofStranger (t : Text) : Argument :=
  if isNegativeNumber t || t.contains ' ' then .operand t else .unknown []

/-- A shortened long option has to mean one option only. -/
def Argument.ofLong (t : Text) : Except Refusal Argument :=
  let (front, value) := splitValue t
  match meanings front with
  | [] => .ok (.ofStranger t)
  | [m] => .ok (.ofMeaning m value)
  | _ => .error .usage

def Argument.classify (t : Text) : Except Refusal Argument :=
  let (front, value) := splitValue t
  match t, meaning? t, meaning? front with
  | _, some m, _ => .ok (.ofMeaning m none)
  | '-' :: _ :: _, none, some m => .ok (.ofMeaning m value)
  | '-' :: '-' :: _, none, none => Argument.ofLong t
  | '-' :: c :: cs, none, none =>
    .ok (if (meaning? ['-', c]).isSome then .ofLetters [] (c :: cs) else .ofStranger t)
  | _, _, _ => .ok (.operand t)

def classifyAll : List Text → Except Refusal (List Argument)
  | [] => .ok []
  | t :: ts =>
    if t == "--".toList then .ok (.separator :: ts.map .operand)
    else do
      let a ← Argument.classify t
      return a :: (← classifyAll ts)

/-! ### All arguments -/

/-- Where the paths stand. -/
inductive Place where
  | ahead
  /-- The argument before was a path. -/
  | inside
  /-- An option followed the paths. -/
  | behind
  deriving DecidableEq, Repr

structure Reading where
  options : Options := {}
  place : Place := .ahead
  /-- Something has no meaning here. -/
  strays : Bool := false

namespace Reading

def endPaths (r : Reading) : Reading := if r.place = .inside then { r with place := .behind } else r

def addPath (r : Reading) (t : Text) : Reading :=
  if r.place = .behind then { r with strays := true }
  else { r with place := .inside, options := { r.options with paths := r.options.paths ++ [t] } }

def separate (r : Reading) : Reading := if r.place = .behind then { r with strays := true } else r

def switch (r : Reading) : Switch → Except Refusal Reading
  | .help => .error .help
  | .validate => .ok { r with options := { r.options with validate := true } }
  | .verbose => .ok { r with options := { r.options with verbose := true } }

/-- A strategy has to be written out. -/
def set (r : Reading) (value : Text) : Setting → Except Refusal Reading
  | .snapshot => .ok { r with options := { r.options with snapshot := value } }
  | .strategy =>
    match StrategyName.all.find? fun s => s.tag == value with
    | some s => .ok { r with options := { r.options with strategy := some s } }
    | none => .error .usage

/-- The options, if there is a path and all had a meaning. -/
def finish (r : Reading) : Except Refusal Options :=
  if r.strays || r.options.paths.isEmpty then .error .usage else .ok r.options

def run (r : Reading) : List Argument → Except Refusal Options
  | [] => r.finish
  | .operand t :: rest => (r.addPath t).run rest
  | .separator :: rest => r.separate.run rest
  | .switches ss :: rest => do (← ss.foldlM switch r.endPaths).run rest
  | .setting s (some value) :: rest => do (← r.endPaths.set value s).run rest
  | .setting s none :: .operand value :: rest => do (← r.endPaths.set value s).run rest
  | .setting _ none :: _ | .overfull :: _ => .error .usage
  | .unknown ss :: rest => do run { (← ss.foldlM switch r.endPaths) with strays := true } rest

end Reading

def parse (args : List Text) : Except Refusal Options := do
  Reading.run {} (← classifyAll args)

end SourceChunks.CommandLine
