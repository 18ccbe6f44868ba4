import SourceChunks.Chunk.Report

/-! Chunks as unchecked records: any field may hold any value or be missing, and whole parts may be
missing. -/

namespace SourceChunks

abbrev Fields := List (Text × Value)

/-- The value of a field, null when it is missing. -/
def Fields.get (f : Fields) (key : String) : Value := ((f.find? (·.1 == key.toList)).map (·.2)).getD .null

structure UncheckedRelation where
  fields : Fields := []
  evidence : Option Fields := none

structure UncheckedChunk where
  base : Option Fields := none
  facets : Option Fields := none
  lineCounts : Option Fields := none
  /-- Missing when the value is not a list. -/
  relations : Option (List UncheckedRelation) := none
  quality : Option Fields := none
  debt : Option Fields := none
  context : Option Fields := none
  fileContext : Option Fields := none

namespace Value

def fields : Value → Fields
  | .record fs => fs
  | _ => []

end Value

def Relation.unchecked (r : Relation) : UncheckedRelation :=
  { fields := r.toValue.fields, evidence := some r.evidence.toValue.fields }

def EnrichedChunk.unchecked (c : EnrichedChunk) : UncheckedChunk :=
  { base := some c.base.fields, facets := some c.facets.toValue.fields,
    lineCounts := some c.facets.lineCounts.toValue.fields, relations := some (c.relations.map (·.unchecked)),
    quality := some c.quality.toValue.fields, debt := some c.quality.debt.toValue.fields,
    context := c.context.map fun x => x.toValue.fields,
    fileContext := c.context.map fun x => x.file.toValue.fields }

end SourceChunks
