import FlowTemplate.Lint.Graph
import FlowTemplate.Proofs.Json.Excess
import FlowTemplate.Proofs.Json.Tree
import Mathlib.Algebra.Group.Int.Defs
/-!
# Definitions and their JSON text

A definition can be given as a tree or as JSON text. The linter says the same about both, wherever
the text can be read and reads as the tree: its findings come from the tree and from nothing else.
In ASCII the two halves of a surrogate pair that stand one after the other are read as one
character, and a text can be beyond the limits of the reader.
-/

namespace FlowTemplate.Lint

variable {style : Json.Style} {definition : Value}

/-- Apart from texts, definitions are looked at as they are. -/
theorem findings_of_not_text (htext : ∀ s, definition ≠ .str s) :
    findings definition = definitionFindings "$" definition := by
  unfold findings
  split
  · rename_i text
    exact absurd rfl (htext text)
  · rfl

theorem findings_of_parse {text : String} (hparse : Json.parse text = .ok definition) :
    findings (.str text) = definitionFindings "$" definition := by
  rw [findings, hparse]

theorem report_of_not_text (htext : ∀ s, definition ≠ .str s) :
    report definition = .ok (findings definition) := by
  have hexcess : excess? definition = none := by
    unfold excess?
    split
    · rename_i text
      exact absurd rfl (htext text)
    · rfl
  rw [report, hexcess]

theorem report_of_excess {text : String} {e : Json.Excess} (h : Json.excess? text = some e) :
    report (.str text) = .error e := by
  rw [report, excess?, h]

/-- A definition that starts at no state, with characters that ASCII text escapes. -/
def misdirected : Value :=
  .object [("StartAt", .str "Zürich"), ("States", .object [
    ("Genève 𐀀", .object [("Type", .str "Succeed")])])]

/-- A definition that starts at a character and declares a state named with the halves of its
surrogate pair. -/
def halved : Value :=
  .object [("StartAt", .str "𐀀"), ("States", .object [
    (String.ofList (Text.ofCodes [0xD800, 0xDC00]), .object [("Type", .str "Succeed")])])]

/-- A definition with an integer that is too long for the reader, where the linter does not look. -/
def numbered : Value :=
  .object [("StartAt", .str "Done"), ("States", .object [
    ("Done", .object [("Type", .str "Succeed")])]), ("Number", .int (10 ^ Text.mostDigits))]

end FlowTemplate.Lint
