import FlowTemplate.Yaml.NodeTag
/-!
# Nodes

The tree of a YAML document, with every node's tag settled. A reference to an earlier node is a
copy of it. Nodes that can be referred to have numbers, so that copies can be told from nodes that
only look alike; a reference to a node around it cannot be a copy and is just the number.
-/

namespace FlowTemplate.Yaml

inductive Node where
  | scalar (tag : NodeTag) (text : String)
  | sequence (tag : NodeTag) (items : List Node)
  | mapping (tag : NodeTag) (entries : List (Node × Node))
  /-- A node with its number. -/
  | anchored (number : Nat) (node : Node)
  /-- The node of a number, inside itself. -/
  | again (number : Nat)
  deriving Inhabited

namespace Node

def tag : Node → NodeTag
  | .scalar tag _ | .sequence tag _ | .mapping tag _ => tag
  | .anchored _ node => node.tag
  | .again _ => .unknown

/-- A node without the numbers before it. -/
def bare : Node → Node
  | .anchored _ node => node.bare
  | node => node

/-- What stands where a node is left out. -/
def empty : Node := .scalar .null ""

end Node

end FlowTemplate.Yaml
