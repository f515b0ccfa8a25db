import FlowTemplate.Document.Misfit
/-!
# Deep merge

Merging a source into a target puts the values of the source under their keys. Where both sides
hold a mapping the two are merged in turn; any other value of the source replaces the one of the
target. Keys of the target keep their places and new keys follow in the order of the source.
-/

namespace FlowTemplate.Value

mutual

/-- What stands under a key after a source value has met the value that stood there. -/
def mergeInto : Option Value → Value → Value
  | some (.map target), .map source => .map (mergeEntries target source)
  | _, v => v

/-- The entries of a target after those of a source have been merged into them. -/
def mergeEntries (target : Entries) : List (Atom × Value) → Entries
  | [] => target
  | (k, v) :: rest => mergeEntries (target.insert k (mergeInto (target.get? k) v)) rest

end

/-- The merge of a source into a target. An empty source fits every target. -/
def merge (target source : Value) : Except Misfit Value := do
  let source ← source.entries
  if source.isEmpty then return target
  let target ← target.entries
  return .map (mergeEntries target source)

end FlowTemplate.Value
