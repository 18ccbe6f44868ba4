import SourceChunks.Text.Quoted

/-! The ways in which an operation can fail, and the message of each. -/

namespace SourceChunks

inductive Failure where
  | notInteger (t : Text)
  | notNumber (t : Text)
  | nanToInteger
  | infinityToInteger
  /-- An integer beyond all doubles. -/
  | integerTooLarge
  /-- A text denotes an integer of more digits than are read. -/
  | tooManyDigits (count : Nat)
  /-- A value of another kind was taken for an integer. -/
  | integerFrom (kind : Text)
  | numberFrom (kind : Text)
  /-- Blocks of no lines. -/
  | zeroStep
  | noSyntaxReader (language : Text)
  /-- A path without a final component was taken for a file. -/
  | emptyName (path : Text)
  | unknownSeverity (severity : Text)
  | lineOutOfRange
  /-- A choice among no strategies. -/
  | noStrategies
  /-- A name holds the null character; the name is made of bytes or of characters. -/
  | embeddedNull (unit : Text)
  | unknownEncoding (name : Text)
  /-- The name is one of what does not make texts from bytes. -/
  | notTextEncoding (name : Text)
  /-- The encoding is there to fail. -/
  | undefinedEncoding
  /-- The encoding has no place for replacement characters. -/
  | strictEncoding
  /-- The bytes lack the mark that tells their order. -/
  | missingMark (encoding : Text)
  | sourceMissing (snapshot path : Text)
  deriving DecidableEq, Repr

def Failure.message : Failure → Text
  | .notInteger t => "invalid literal for int() with base 10: " ++ (Quoted.encode t).take 200
  | .notNumber t => "could not convert string to float: " ++ Quoted.encode t
  | .nanToInteger => "cannot convert float NaN to integer"
  | .infinityToInteger => "cannot convert float infinity to integer"
  | .integerTooLarge => "int too large to convert to float"
  | .tooManyDigits count =>
    "Exceeds the limit (4300 digits) for integer string conversion: value has " ++ Text.ofNat count ++
      " digits; use sys.set_int_max_str_digits() to increase the limit"
  | .integerFrom kind =>
    "int() argument must be a string, a bytes-like object or a real number, not " ++ Quoted.encode kind
  | .numberFrom kind => "float() argument must be a string or a real number, not " ++ Quoted.encode kind
  | .zeroStep => "range() arg 3 must not be zero"
  | .noSyntaxReader language => "No tree-sitter parser for " ++ language
  | .emptyName path => "PurePosixPath(" ++ Quoted.encode path ++ ") has an empty name"
  | .unknownSeverity severity => Quoted.encode severity
  | .lineOutOfRange => "list index out of range"
  | .noStrategies => []
  | .embeddedNull unit => "embedded null " ++ unit
  | .unknownEncoding name => "unknown encoding: " ++ name
  | .notTextEncoding name =>
    "'" ++ name ++ "' is not a text encoding; use codecs.open() to handle arbitrary codecs"
  | .undefinedEncoding => "undefined encoding"
  | .strictEncoding => "Unsupported error handling replace"
  | .missingMark encoding => encoding ++ " stream does not start with BOM"
  | .sourceMissing snapshot path => "No content for " ++ path ++ " in snapshot " ++ snapshot

end SourceChunks
