import SourceChunks.Language.Basic
import SourceChunks.Metrics.Signals

/-! Signs by which a language's sources are judged: smells, security concerns and costly
constructs. -/

namespace SourceChunks.Quality

open Pattern

structure Rule where
  name : Text
  pattern : Pattern

structure LanguageRules where
  complexityWords : List String
  smells : List Rule
  security : List Rule
  performance : List Rule

/-- A call of a function that is not a part of a longer name. -/
def bareCall (extra : Text) (name : String) : Pattern := notAfter (wordOr extra) ++ lit name ++ blanks ++ lit "("

/-! ### Scripts -/

def scriptWords : List String := ["if", "else", "for", "while", "switch", "case", "catch", "try"]

def scriptSmells : List Rule := [
  ⟨"Use of var", wordEdge ++ lit "var" ++ gap ++ wordRun⟩,
  ⟨"Loose null comparison",
    anyOf "=!" ++ lit "=" ++ blanks ++ lit "null" ++ wordEdge ++ .notAhead (blanks ++ lit "=")⟩,
  ⟨"Console logging", lit "console.log"⟩]

def typedScriptSmells : List Rule := scriptSmells ++ [
  ⟨"Use of any type", lit ":" ++ blanks ++ lit "any" ++ wordEdge⟩,
  ⟨"ts-ignore comment", lit "@ts-ignore"⟩]

def scriptSecurity : List Rule := [
  ⟨"Use of eval", bareCall "$." "eval"⟩,
  ⟨"Unescaped HTML sink", lit ".innerHTML" ++ blanks ++ lit "=" ++ notBefore (· == '=')⟩,
  ⟨"document.write usage", lit "document.write"⟩,
  ⟨"String passed to setTimeout", lit "setTimeout" ++ blanks ++ lit "(" ++ blanks ++ anyOf "\"'"⟩]

def scriptPerformance : List Rule := [
  ⟨"DOM query", lit "document.getElementById"⟩,
  ⟨"innerHTML concatenation", lit ".innerHTML" ++ blanks ++ lit "+="⟩,
  ⟨"RegExp construction", lit "new" ++ gap ++ lit "RegExp"⟩]

/-! ### Indented languages -/

def globalVariable : Rule := ⟨"Global variable", lineStart ++ blanks ++ lit "global" ++ gap ++ wordRun⟩

def indentedRules : LanguageRules :=
  { complexityWords := ["if", "elif", "else", "for", "while", "try", "except", "with"]
    smells := [
      ⟨"Bare except clause", lineStart ++ blanks ++ lit "except" ++ blanks ++ lit ":"⟩,
      globalVariable,
      ⟨"Print statement", bareCall "." "print"⟩]
    security := [
      ⟨"Use of eval", bareCall "." "eval"⟩,
      ⟨"Use of exec", bareCall "." "exec"⟩,
      ⟨"Raw input", bareCall "." "input"⟩,
      ⟨"Unsafe deserialization", lit "pickle.load" ++ opt (lit "s") ++ blanks ++ lit "("⟩,
      ⟨"Shell injection risk", lit "subprocess." ++ wordRun ++ lit "(" ++ manyOf onLine ++ lit "shell" ++
        blanks ++ lit "=" ++ blanks ++ lit "True"⟩]
    performance := [
      ⟨"String concatenation in loop", lit "+=" ++ blanks ++ (lit "str(" <|> anyOf "\"'")⟩,
      globalVariable] }

/-! ### Typed languages -/

def javaRules : LanguageRules :=
  { complexityWords := scriptWords
    smells := [
      ⟨"System.out usage", lit "System.out.print"⟩,
      ⟨"Empty catch block", lit "catch" ++ blanks ++ lit "(" ++ manyOf (butNot ")") ++ lit ")" ++ blanks ++
        lit "\x7b" ++ blanks ++ lit "\x7d"⟩]
    security := [
      ⟨"Runtime.exec usage", lit "Runtime.getRuntime().exec"⟩,
      ⟨"Dynamic class loading", lit "Class.forName"⟩,
      ⟨"Unprepared SQL statement", oneOf ["Statement.execute", "createStatement().execute"]⟩,
      ⟨"Weak hash algorithm", lit "MessageDigest.getInstance(\"MD5\")"⟩]
    performance := [
      ⟨"String concatenation", lit "String" ++ gap ++ wordRun ++ blanks ++ lit "=" ++ blanks ++ lit "\"" ++
        manyOf (butNot "\"") ++ lit "\"" ++ blanks ++ lit "+"⟩,
      ⟨"Legacy collection", wholeWord ["Vector", "Hashtable"]⟩,
      ⟨"Synchronized block", lit "synchronized" ++ blanks ++ lit "("⟩] }

def rules? : Language → Option LanguageRules
  | .javascript => some ⟨scriptWords, scriptSmells, scriptSecurity, scriptPerformance⟩
  | .typescript => some ⟨scriptWords, typedScriptSmells, scriptSecurity, scriptPerformance⟩
  | .python => some indentedRules
  | .java => some javaRules
  | _ => none

/-! ### All languages -/

def generalSecurity : List Pattern := [
  lit "http://" ++ .notAhead (oneOf ["localhost", "127.0.0.1"]),
  oneOf ["Math.random", "random.random"] ++ blanks ++ lit "(",
  wordEdge ++ oneOfAnyCase ["md5", "sha1"] ++ wordEdge,
  oneOf ["../", "..\\"]]

/-- The given names, and those of further rules that the text shows. -/
def withRules (names : List Text) (rs : List Rule) (content : Text) : List Text :=
  rs.foldl (fun ns r => if r.pattern.occursIn content then addNew ns r.name else ns) names

def codeSmells (content : Text) (language : Language) : List Text :=
  withRules (Metrics.codeSmells content) (((rules? language).map (·.smells)).getD []) content

def securityConcerns (content : Text) (language : Language) : List Text :=
  withRules (Metrics.securityConcerns content) (((rules? language).map (·.security)).getD []) content

end SourceChunks.Quality
