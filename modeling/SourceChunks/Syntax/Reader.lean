import SourceChunks.Syntax.Declared
import SourceChunks.Syntax.Indented
import SourceChunks.Syntax.Script.Rules
import SourceChunks.Syntax.Typed.Rules

/-! A reader of syntax trees: one set of rules for each grammar. -/

namespace SourceChunks.Grammar

def parts (g : Grammar) (source : Text) : List SyntaxTree :=
  match g with
  | python => Indented.statements source
  | javascript => Script.declarations source
  | java => Typed.declarations source

def tree (g : Grammar) (source : Text) : SyntaxTree :=
  .node .other .part [] .zero (Mark.zero.after source) (g.parts source)

end SourceChunks.Grammar
