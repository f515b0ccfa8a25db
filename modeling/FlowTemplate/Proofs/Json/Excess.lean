import FlowTemplate.Proofs.Json.Limit
import FlowTemplate.Proofs.Json.RoundTrip
import Mathlib.Algebra.Group.Nat.Defs
/-!
# What a value has too much of

The limits of a reader say something about values: how deep containers are nested, and how many
digits an integer has. In the text of a plain value the reader meets the first excess of the value,
whatever the style of the text.
-/

namespace FlowTemplate

/-- An integer can have too many digits. -/
def Atom.excess : Atom → Option Json.Excess
  | .int i => if 10 ^ Text.mostDigits ≤ i.natAbs then some .digits else none
  | _ => none

namespace Value

mutual

/-- What a value has too much of for a reader that is inside of some containers: the first in the
order of the text. -/
def excess (depth : Nat) : Value → Option Json.Excess
  | .atom a => a.excess
  | .list items | .tuple items =>
    if depth = Json.maxDepth then some .depth else itemsExcess (depth + 1) items
  | .set _ | .again _ => none
  | .map entries =>
    if depth = Json.maxDepth then some .depth else entriesExcess (depth + 1) entries
  | .anchored _ v => excess depth v

def itemsExcess (depth : Nat) : List Value → Option Json.Excess
  | [] => none
  | v :: rest => (excess depth v).or (itemsExcess depth rest)

def entriesExcess (depth : Nat) : List (Atom × Value) → Option Json.Excess
  | [] => none
  | (_, v) :: rest => (excess depth v).or (entriesExcess depth rest)

end

end Value

namespace Json

variable {style : Style}

/-! ## Tokens -/

/-- An integer is too long by its digits, and a sign is none of them. -/
theorem scans_integer (i : Int) : Scans (integer i) (fun _ => (Atom.int i).excess) id := by
  have hdigits : Scans (Nat.toDigits 10 i.natAbs) (fun _ => (Atom.int i).excess) id := by
    have hnumber := scans_number (whole_toDigits i.natAbs) .absent .absent
    have hexcess : numberExcess (Nat.toDigits 10 i.natAbs) none none = (Atom.int i).excess := by
      have hlength := Nat.length_toDigits_le_iff (n := i.natAbs) (show 1 < 10 by decide)
        (show 0 < Text.mostDigits by decide)
      simp only [numberExcess, Atom.excess, Option.isNone_none, Bool.true_and, decide_eq_true_eq]
      refine if_congr ?_ rfl rfl
      rw [← Nat.not_lt, ← hlength, Nat.not_le]
    simpa only [List.append_nil, hexcess] using hnumber
  rw [integer]
  split
  · exact hdigits.skip (by decide)
  · exact hdigits

/-! ## Values

A text of the grammar may repeat a key, and then the value lacks what stood there first. So this is
said of printed texts only, which follow the value.
-/

/-- In the printed text of the value, at any depth of the text, the reader meets the excess of the
value. -/
def IsScanned (style : Style) (v : Value) : Prop :=
  ∀ depth, Scans (render style depth v) (fun inside => v.excess inside) id

theorem isScanned_word (word : String) {a : Atom} (h : (word, a) ∈ words)
    (hrender : ∀ depth, render style depth (.atom a) = word.toList := by exact fun _ => rfl)
    (hexcess : a.excess = none := by rfl) : IsScanned style (.atom a) := by
  intro depth
  simp only [hrender, Value.excess, hexcess]
  exact scans_word h

theorem isScanned_text {s : String} (h : IsPrintable style s) : IsScanned style (.str s) := by
  intro depth
  obtain ⟨raw, hquoted, hbody⟩ := exists_body_of_isPrintable h
  rw [render, renderAtom, hquoted]
  have htext := scans_nil.string hbody
  rwa [List.append_nil] at htext

theorem scans_items (depth : Nat) {v : Value} {items : List Value} {close : List Char}
    (h : ∀ w ∈ v :: items, IsScanned style w) (hclose : Blanks close) :
    Scans (render style depth v ++ (renderItems style depth items ++ (close ++ [']'])))
      (fun inside => Value.itemsExcess inside (v :: items)) fun inside => inside - 1 := by
  induction items generalizing v with
  | nil =>
    simpa only [Value.itemsExcess, Option.or_none, renderItems, List.nil_append] using
      (h v List.mem_cons_self depth).close (.inl rfl) hclose
  | cons next items ih =>
    obtain ⟨hv, hitems⟩ := List.forall_mem_cons.mp h
    obtain ⟨blanks, hsep, hblanks⟩ := separator_eq style depth
    have hmore := (hv depth).comma (ih hitems) blanks_nil hblanks
    simpa [renderItems, hsep, Value.itemsExcess] using hmore

theorem scans_member {entry : Atom × Value} (hkey : HasPrintableKey style entry)
    (hv : IsScanned style entry.2) (depth : Nat) :
    Scans (renderMember style depth entry) (fun inside => entry.2.excess inside) id := by
  obtain ⟨k, v⟩ := entry
  obtain ⟨s, rfl, hs⟩ := hkey
  obtain ⟨raw, hquoted, hbody⟩ := exists_body_of_isPrintable hs
  obtain ⟨blanks, hcolon, hblanks⟩ := colon_eq style
  have hmember := (hv depth).member hbody blanks_nil hblanks
  simpa [renderMember, renderKey, hquoted, hcolon] using hmember

theorem scans_members (depth : Nat) {entry : Atom × Value} {entries : Entries}
    {close : List Char}
    (h : ∀ e ∈ entry :: entries, HasPrintableKey style e ∧ IsScanned style e.2)
    (hclose : Blanks close) :
    Scans (renderMember style depth entry ++
      (renderEntries style depth entries ++ (close ++ ['\x7d'])))
      (fun inside => Value.entriesExcess inside (entry :: entries)) fun inside => inside - 1 := by
  induction entries generalizing entry with
  | nil =>
    obtain ⟨hkey, hv⟩ := h entry List.mem_cons_self
    simpa only [Value.entriesExcess, Option.or_none, renderEntries, List.nil_append] using
      (scans_member hkey hv depth).close (.inr rfl) hclose
  | cons next entries ih =>
    obtain ⟨⟨hkey, hv⟩, hentries⟩ := List.forall_mem_cons.mp h
    obtain ⟨blanks, hsep, hblanks⟩ := separator_eq style depth
    have hmore := (scans_member hkey hv depth).comma (ih hentries) blanks_nil hblanks
    simpa [renderEntries, renderMember, hsep, Value.entriesExcess] using hmore

theorem isScanned_list {items : List Value} (h : ∀ v ∈ items, IsScanned style v) :
    IsScanned style (.list items) := by
  intro depth
  cases items with
  | nil => exact (scans_closing (.inl rfl)).container (.inl rfl) blanks_nil
  | cons v items =>
    have hlist := (scans_items (depth + 1) h (blanks_lineBreak style depth)).container (.inl rfl)
      (blanks_lineBreak style (depth + 1))
    simpa [render, Value.excess] using hlist

theorem isScanned_map {entries : Entries}
    (h : ∀ entry ∈ entries, HasPrintableKey style entry ∧ IsScanned style entry.2) :
    IsScanned style (.map entries) := by
  intro depth
  cases entries with
  | nil => exact (scans_closing (.inr rfl)).container (.inr rfl) blanks_nil
  | cons entry entries =>
    have hmap := (scans_members (depth + 1) h (blanks_lineBreak style depth)).container (.inr rfl)
      (blanks_lineBreak style (depth + 1))
    simpa [render, renderMember, Value.excess] using hmap

theorem isScanned_plain {v : Value} (h : v.isPlain = true)
    (hprintable : ∀ s ∈ Intrinsic.allTexts v, IsPrintable style s) : IsScanned style v := by
  refine printable_induction (isScanned_word "null" (by simp [words])) (fun b => ?_)
    (fun i _ => scans_integer i) (fun _ => isScanned_text) (fun _ => isScanned_list)
    (fun _ _ => isScanned_map) h hprintable
  cases b with
  | false => exact isScanned_word "false" (by simp [words])
  | true => exact isScanned_word "true" (by simp [words])

/-! ## Whole texts -/

/-- The reader meets in the text of a plain value what the value has too much of. -/
theorem excess?_render {v : Value} (h : v.isPlain = true)
    (hprintable : ∀ s ∈ Intrinsic.allTexts v, IsPrintable style s) :
    excess? (String.ofList (render style 0 v)) = v.excess 0 := by
  have hscan := isScanned_plain h hprintable 0 0 [] follows_nil
  rw [List.append_nil] at hscan
  rw [excess?_of_parse (parse_render_of_isPrintable h hprintable), String.toList_ofList, hscan]
  exact Option.or_none

/-- An integer with too many digits is an excess of its text. -/
theorem excess?_toDigits {n : Nat} (hn : 10 ^ Text.mostDigits ≤ n) :
    excess? (String.ofList (Nat.toDigits 10 n)) = some .digits := by
  have htext : render oneLine 0 (.int n) = Nat.toDigits 10 n := by
    change integer n = _
    rw [integer, if_neg (by omega), Int.natAbs_natCast]
  have hexcess : excess? (String.ofList (render oneLine 0 (.int n))) = (Value.int n).excess 0 :=
    excess?_render rfl fun s _ => isPrintable_of_wide rfl s
  rw [← htext, hexcess, Value.excess, Atom.excess, Int.natAbs_natCast, if_pos hn]

end Json

end FlowTemplate
