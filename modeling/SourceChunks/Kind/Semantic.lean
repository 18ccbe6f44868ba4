import SourceChunks.Text.Basic

/-! What a chunk is for, and what a declaration is. -/

namespace SourceChunks

/-- The role of a chunk. -/
inductive SemanticType where
  | function | class_ | interface | type | enum | module | config | test | documentation | constant
  | utility | component | service | model | controller | middleware | route | schema | migration
  | fixture | script | other
  | custom (tag : Text)
  deriving DecidableEq, Repr

namespace SemanticType

def tag : SemanticType → Text
  | function => "function"
  | class_ => "class"
  | interface => "interface"
  | type => "type"
  | enum => "enum"
  | module => "module"
  | config => "config"
  | test => "test"
  | documentation => "documentation"
  | constant => "constant"
  | utility => "utility"
  | component => "component"
  | service => "service"
  | model => "model"
  | controller => "controller"
  | middleware => "middleware"
  | route => "route"
  | schema => "schema"
  | migration => "migration"
  | fixture => "fixture"
  | script => "script"
  | other => "other"
  | custom t => t

def listed : List SemanticType :=
  [function, class_, interface, type, enum, module, config, test, documentation, constant, utility,
    component, service, model, controller, middleware, route, schema, migration, fixture, script,
    other]

def ofTag (t : Text) : SemanticType := (listed.find? fun s => s.tag == t).getD (custom t)

end SemanticType

inductive NodeKind where
  | function | class_ | interface | type | enum | method | block
  deriving DecidableEq, Repr

namespace NodeKind

def tag : NodeKind → Text
  | function => "function"
  | class_ => "class"
  | interface => "interface"
  | type => "type"
  | enum => "enum"
  | method => "method"
  | block => "block"

def semanticType : NodeKind → SemanticType
  | function | method => .function
  | class_ => .class_
  | interface => .interface
  | type => .type
  | enum => .enum
  | block => .module

/-- The role that the tag of a declaration stands for; a module when it is not a declaration. -/
def semanticTypeOfTag (t : Text) : SemanticType :=
  match [function, class_, interface, type, enum, method, block].find? fun k => k.tag == t with
  | some k => k.semanticType
  | none => .module

end NodeKind

end SourceChunks
