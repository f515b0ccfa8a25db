import FlowTemplate.Schema.Library
import FlowTemplate.Schema.Standard.Draft3
import FlowTemplate.Schema.Standard.Draft4
import FlowTemplate.Schema.Standard.Draft7
import FlowTemplate.Schema.Standard.Draft2019
import FlowTemplate.Schema.Standard.Draft2020
/-!
# The standard schemas

The schema that a document has to satisfy to be a schema of a dialect, and the library of all of them,
which references can lead to.
-/

namespace FlowTemplate.Schema.Standard

/-- The schema of the schemas of a dialect. -/
def document : Dialect → Value
  | .draft3 => Draft3.document
  | .draft4 => Draft4.document
  | .draft6 => Draft7.draft6
  | .draft7 => Draft7.draft7
  | .draft2019 => Draft2019.document
  | .draft2020 => Draft2020.document

/-- The schemas that the schema of a dialect refers to. -/
def parts : Dialect → List Value
  | .draft2019 => Draft2019.parts
  | .draft2020 => Draft2020.parts
  | _ => []

def resource (d : Dialect) : Resource := { document := document d, dialect := d }

/-- All standard schemas. -/
def library : Library :=
  (Dialect.all.flatMap fun d => document d :: parts d |>.map fun v => { document := v, dialect := d }).foldl
    Library.withRoot {}

/-- What speaks against a document as a schema of a dialect. -/
def check (d : Dialect) (document : Value) : Report :=
  library.check true (resource d) document

end FlowTemplate.Schema.Standard
