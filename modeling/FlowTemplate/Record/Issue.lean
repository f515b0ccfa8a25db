/-!
# Issues

What is wrong with the data of a record: for each fault the place, as the names and positions that
lead to it, and the rule that was broken.
-/

namespace FlowTemplate

/-- The rules that data of a record can break. -/
inductive Rule where
  | missing
  | extra
  | unknownField
  | record
  | text
  | textEncoding
  | mapping
  | list
  | constant
  | truthText
  | truth
  | integerText
  | integerSize
  | integer
  | least
  deriving DecidableEq

/-- The name of a rule. -/
def Rule.name : Rule → String
  | .missing => "missing"
  | .extra => "extra_forbidden"
  | .unknownField => "no_such_attribute"
  | .record => "model_type"
  | .text => "string_type"
  | .textEncoding => "string_unicode"
  | .mapping => "dict_type"
  | .list => "list_type"
  | .constant => "literal_error"
  | .truthText => "bool_parsing"
  | .truth => "bool_type"
  | .integerText => "int_parsing"
  | .integerSize => "int_parsing_size"
  | .integer => "int_type"
  | .least => "greater_than_equal"

structure Issue where
  place : List String
  rule : Rule
  deriving DecidableEq

def Issue.under (step : String) (i : Issue) : Issue := { i with place := step :: i.place }

/-- The place of an issue and the rule that is broken there. -/
def Issue.message (i : Issue) : String := ".".intercalate i.place ++ ": " ++ i.rule.name

end FlowTemplate
