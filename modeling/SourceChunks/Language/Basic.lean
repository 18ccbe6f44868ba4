import SourceChunks.Text.Basic

/-! Languages of source files and their tags. -/

namespace SourceChunks

inductive Language where
  | javascript | typescript | python | java | c | cpp | csharp | go | ruby | php | rust | swift
  | kotlin | scala | html | css | scss | sass | json | markdown | yaml | shell | text
  | other (tag : Text)
  deriving DecidableEq, Repr, BEq

namespace Language

def tag : Language → Text
  | javascript => "javascript"
  | typescript => "typescript"
  | python => "python"
  | java => "java"
  | c => "c"
  | cpp => "cpp"
  | csharp => "csharp"
  | go => "go"
  | ruby => "ruby"
  | php => "php"
  | rust => "rust"
  | swift => "swift"
  | kotlin => "kotlin"
  | scala => "scala"
  | html => "html"
  | css => "css"
  | scss => "scss"
  | sass => "sass"
  | json => "json"
  | markdown => "markdown"
  | yaml => "yaml"
  | shell => "shell"
  | text => "text"
  | other t => t

def named : List Language :=
  [javascript, typescript, python, java, c, cpp, csharp, go, ruby, php, rust, swift, kotlin, scala,
    html, css, scss, sass, json, markdown, yaml, shell, text]

def ofTag (t : Text) : Language := (named.find? fun l => l.tag == t).getD (other t)

def hasBraces : Language → Bool
  | javascript | typescript | java | c | cpp | csharp | go | rust | php | swift | kotlin | scala => true
  | _ => false

/-- The languages whose declarations are understood. -/
def hasDeclarations : Language → Bool
  | python | ruby => true
  | l => l.hasBraces

end Language

end SourceChunks
