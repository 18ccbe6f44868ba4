import SourceChunks.Language.Basic
import SourceChunks.Path

/-! The language of a file by the extension of its path. A header counts as C++ when the beginning
of its text shows a mark of that language. -/

namespace SourceChunks.Language

def extensionNames : List (String × Language) := [
  (".js", javascript), (".jsx", javascript), (".mjs", javascript), (".cjs", javascript),
  (".ts", typescript), (".tsx", typescript), (".py", python), (".java", java), (".c", c), (".h", c),
  (".cpp", cpp), (".cc", cpp), (".hpp", cpp), (".cxx", cpp), (".cs", csharp), (".go", go),
  (".rb", ruby), (".php", php), (".rs", rust), (".swift", swift), (".kt", kotlin), (".kts", kotlin),
  (".scala", scala), (".html", html), (".htm", html), (".css", css), (".scss", scss),
  (".sass", sass), (".json", json), (".md", markdown), (".markdown", markdown), (".yaml", yaml),
  (".yml", yaml), (".sh", shell)]

def extensions : List (Text × Language) := extensionNames.map fun e => (e.1.toList, e.2)

/-- The extension of a path in lower case. -/
def extensionOf (path : Text) : Text := lowercase (FilePath.ofText path).extension

def ofExtension? (extension : Text) : Option Language :=
  (extensions.find? (·.1 == extension)).map (·.2)

/-- Marks that make a header a C++ one. -/
def headerMarks : List Text := ["namespace", "class ", "template<", "template <", "::"]

/-- The language of a file; plain text when the extension is not known. -/
def detect (path content : Text) : Language :=
  let extension := extensionOf path
  if extension == ".h".toList && Text.hasAny (content.take 4000) headerMarks then cpp
  else (ofExtension? extension).getD text

def isSupported (path : Text) : Bool := (ofExtension? (extensionOf path)).isSome

end SourceChunks.Language
