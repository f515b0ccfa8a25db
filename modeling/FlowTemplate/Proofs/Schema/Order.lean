import FlowTemplate.Proofs.Schema.Cache
import FlowTemplate.Proofs.Schema.Location
import FlowTemplate.Proofs.Text.Surrogate
import Mathlib.Tactic.Ring
/-!
# The order of a report

The lines of a report are put in order by the paths of the violations, and paths by the texts of
their steps. So violations in two items of one list are in the order of the decimals of the items'
positions, which is the order of the positions only where the earlier one comes first as a text.
-/

/-! ## The order of texts

Rows of code points are put in order by their first difference, and a row comes before those it
begins. So numbers written in decimals are not in the order of their values: a shorter number is
compared as if zeros stood behind it.
-/

namespace FlowTemplate.Text

/-! ### Rows -/

theorem codesLe_total (as bs : List Nat) : (codesLe as bs || codesLe bs as) = true := by
  induction as generalizing bs with
  | nil => simp [codesLe]
  | cons a as ih =>
    cases bs with
    | nil => simp [codesLe]
    | cons b bs =>
      have htail := ih bs
      simp only [codesLe, Bool.or_eq_true, decide_eq_true_eq, Bool.and_eq_true, beq_iff_eq]
        at htail ⊢
      rcases Nat.lt_trichotomy a b with hlt | rfl | hgt
      · exact .inl (.inl hlt)
      · exact htail.imp (fun h => .inr ⟨rfl, h⟩) fun h => .inr ⟨rfl, h⟩
      · exact .inr (.inl hgt)

theorem codesLe_trans {as bs cs : List Nat} (hab : codesLe as bs = true)
    (hbc : codesLe bs cs = true) : codesLe as cs = true := by
  induction as generalizing bs cs with
  | nil => rfl
  | cons a as ih =>
    cases bs with
    | nil => cases hab
    | cons b bs =>
      cases cs with
      | nil => cases hbc
      | cons c cs =>
        simp only [codesLe, Bool.or_eq_true, decide_eq_true_eq, Bool.and_eq_true, beq_iff_eq]
          at hab hbc ⊢
        rcases hab with hab | ⟨rfl, hab⟩
        · exact .inl (by omega)
        · exact hbc.imp_right fun ⟨heq, hbc⟩ => ⟨heq, ih hab hbc⟩

theorem codesLe_antisymm {as bs : List Nat} (hab : codesLe as bs = true)
    (hba : codesLe bs as = true) : as = bs := by
  induction as generalizing bs with
  | nil =>
    cases bs with
    | nil => rfl
    | cons b bs => cases hba
  | cons a as ih =>
    cases bs with
    | nil => cases hab
    | cons b bs =>
      simp only [codesLe, Bool.or_eq_true, decide_eq_true_eq, Bool.and_eq_true, beq_iff_eq]
        at hab hba
      rcases hab with hlt | ⟨rfl, hab⟩
      · rcases hba with hgt | ⟨rfl, -⟩ <;> omega
      · rw [ih hab (hba.resolve_left (Nat.lt_irrefl a)).2]

/-! ### Decimals -/

/-- The number that some digits write. -/
abbrev decimalValue (s : List Char) : Nat := Nat.ofDigitChars 10 s 0

theorem ofDigitChars_eq (s : List Char) (n : Nat) :
    Nat.ofDigitChars 10 s n = n * 10 ^ s.length + decimalValue s := by
  induction s generalizing n with
  | nil => simp
  | cons c s ih =>
    rw [decimalValue, Nat.ofDigitChars_cons, Nat.ofDigitChars_cons, ih, ih (10 * 0 + _),
      List.length_cons]
    ring

theorem decimalValue_cons (c : Char) (s : List Char) :
    decimalValue (c :: s) = (c.toNat - '0'.toNat) * 10 ^ s.length + decimalValue s := by
  rw [decimalValue, Nat.ofDigitChars_cons, ofDigitChars_eq, Nat.mul_zero, Nat.zero_add]

/-- Only digits, by their places among the code points. -/
def AreDigits (s : List Char) : Prop := ∀ c ∈ s, '0'.toNat ≤ c.toNat ∧ c.toNat ≤ '9'.toNat

theorem decimalValue_lt {s : List Char} (h : AreDigits s) : decimalValue s < 10 ^ s.length := by
  induction s with
  | nil => simp
  | cons c s ih =>
    obtain ⟨⟨-, hc⟩, hs⟩ := List.forall_mem_cons.mp h
    have hdigit : c.toNat - '0'.toNat ≤ 9 := Nat.sub_le_of_le_add hc
    have hrest := ih hs
    have hfirst : (c.toNat - '0'.toNat) * 10 ^ s.length ≤ 9 * 10 ^ s.length :=
      Nat.mul_le_mul_right _ hdigit
    rw [decimalValue_cons, List.length_cons, pow_succ]
    omega

/-- Of two rows of digits the shorter one comes first exactly if it is not the greater number with
zeros behind it up to the length of the other. -/
theorem codesLe_digits {s t : List Char} (hs : AreDigits s) (ht : AreDigits t)
    (hlength : s.length ≤ t.length) : codesLe (s.map Char.toNat) (t.map Char.toNat) = true ↔
      decimalValue s * 10 ^ (t.length - s.length) ≤ decimalValue t := by
  induction s generalizing t with
  | nil => simp [codesLe]
  | cons c s ih =>
    cases t with
    | nil => cases hlength
    | cons d t =>
      obtain ⟨⟨hc, -⟩, hs⟩ := List.forall_mem_cons.mp hs
      obtain ⟨⟨hd, -⟩, ht⟩ := List.forall_mem_cons.mp ht
      have hlength : s.length ≤ t.length := Nat.le_of_succ_le_succ hlength
      have hlevel : 10 ^ s.length * 10 ^ (t.length - s.length) = 10 ^ t.length := by
        rw [← pow_add, Nat.add_sub_cancel' hlength]
      -- What stands behind the first digits is less than one of them.
      have hleft : decimalValue s * 10 ^ (t.length - s.length) < 10 ^ t.length := by
        rw [← hlevel]
        exact Nat.mul_lt_mul_of_pos_right (decimalValue_lt hs) (Nat.pow_pos (by decide))
      have hright := decimalValue_lt ht
      have hsplit : decimalValue (c :: s) * 10 ^ ((d :: t).length - (c :: s).length) =
          (c.toNat - '0'.toNat) * 10 ^ t.length +
            decimalValue s * 10 ^ (t.length - s.length) := by
        rw [decimalValue_cons, List.length_cons, List.length_cons, Nat.add_sub_add_right,
          Nat.add_mul, Nat.mul_assoc, hlevel]
      rw [hsplit, decimalValue_cons d t, List.map_cons, List.map_cons, codesLe, Bool.or_eq_true,
        Bool.and_eq_true, decide_eq_true_eq, beq_iff_eq, ih hs ht hlength]
      rcases Nat.lt_trichotomy c.toNat d.toNat with hlt | heq | hgt
      · have hstep : (c.toNat - '0'.toNat + 1) * 10 ^ t.length ≤
            (d.toNat - '0'.toNat) * 10 ^ t.length := Nat.mul_le_mul_right _ (by omega)
        rw [Nat.add_mul, Nat.one_mul] at hstep
        exact iff_of_true (.inl hlt) (by omega)
      · simp [heq]
      · have hstep : (d.toNat - '0'.toNat + 1) * 10 ^ t.length ≤
            (c.toNat - '0'.toNat) * 10 ^ t.length := Nat.mul_le_mul_right _ (by omega)
        rw [Nat.add_mul, Nat.one_mul] at hstep
        exact iff_of_false (by omega) (by omega)

theorem areDigits_toDigits (n : Nat) : AreDigits (Nat.toDigits 10 n) := by
  intro c hc
  have hdigit : c.isDigit = true := Nat.isDigit_of_mem_toDigits (by omega) (by omega) hc
  simpa [Char.isDigit, UInt32.le_iff_toNat_le] using hdigit

theorem codes_toString (n : Nat) :
    codes (toString n).toList = (Nat.toDigits 10 n).map Char.toNat := by
  have htext : (toString n).toList = Nat.toDigits 10 n := String.toList_ofList
  rw [htext]
  refine codes_of_mark_notMem fun hmark => ?_
  obtain ⟨-, hle⟩ := areDigits_toDigits n mark hmark
  exact absurd hle (by decide)

theorem codes_toString_injective {m n : Nat}
    (h : codes (toString m).toList = codes (toString n).toList) : m = n := by
  rw [codes_toString, codes_toString] at h
  have hdigits := List.map_inj_right (fun _ _ => Char.toNat_inj.mp) |>.mp h
  rw [← Nat.ofDigitChars_ten_toDigits (n := m), hdigits, Nat.ofDigitChars_ten_toDigits]

/-- The decimals of a number come before those of a greater one, in the order of texts: with zeros
behind them up to the same length they write no greater number. -/
def ComesFirst (m n : Nat) : Prop :=
  m * 10 ^ ((toString n).length - (toString m).length) ≤ n

instance (m n : Nat) : Decidable (ComesFirst m n) := inferInstanceAs (Decidable (_ ≤ _))

theorem length_toString_le {m n : Nat} (h : m ≤ n) :
    (Nat.toDigits 10 m).length ≤ (Nat.toDigits 10 n).length := by
  have hpos : 0 < (Nat.toDigits 10 n).length := List.length_pos_iff.mpr Nat.toDigits_ne_nil
  have hlt := (Nat.length_toDigits_le_iff (b := 10) (by decide) hpos).mp le_rfl
  exact (Nat.length_toDigits_le_iff (by decide) hpos).mpr (by omega)

theorem le_toString_iff {m n : Nat} (h : m ≤ n) :
    le (toString m) (toString n) = true ↔ ComesFirst m n := by
  have hlength (k : Nat) : (toString k).length = (Nat.toDigits 10 k).length := by
    rw [← String.length_toList]
    exact congrArg List.length String.toList_ofList
  rw [le, codes_toString, codes_toString, codesLe_digits (areDigits_toDigits m)
    (areDigits_toDigits n) (length_toString_le h), ComesFirst, hlength, hlength, decimalValue,
    decimalValue, Nat.ofDigitChars_ten_toDigits, Nat.ofDigitChars_ten_toDigits]

/-- Numbers of equally many digits come in the order of their values. -/
theorem comesFirst_of_length_eq {m n : Nat} (h : m ≤ n)
    (hlength : (toString m).length = (toString n).length) : ComesFirst m n := by
  rw [ComesFirst, hlength, Nat.sub_self, pow_zero, Nat.mul_one]
  exact h

example : ComesFirst 1 10 ∧ ¬ ComesFirst 2 10 := by decide

end FlowTemplate.Text

namespace FlowTemplate

/-! ## Lists of texts -/

theorem textsLe_cons_iff (a b : String) (as bs : List String) :
    textsLe (a :: as) (b :: bs) = true ↔
      if Text.codes a.toList = Text.codes b.toList then textsLe as bs = true
      else Text.le a b = true := by
  rw [textsLe]
  by_cases h : Text.codes a.toList = Text.codes b.toList
  · rw [if_pos h, if_pos (beq_iff_eq.mpr h)]
  · rw [if_neg h, if_neg (mt beq_iff_eq.mp h)]

theorem textsLe_total (as bs : List String) : (textsLe as bs || textsLe bs as) = true := by
  induction as generalizing bs with
  | nil => simp [textsLe]
  | cons a as ih =>
    cases bs with
    | nil => simp [textsLe]
    | cons b bs =>
      rw [Bool.or_eq_true, textsLe_cons_iff, textsLe_cons_iff]
      by_cases h : Text.codes a.toList = Text.codes b.toList
      · rw [if_pos h, if_pos h.symm, ← Bool.or_eq_true]
        exact ih bs
      · rw [if_neg h, if_neg (Ne.symm h), ← Bool.or_eq_true]
        exact Text.codesLe_total _ _

theorem textsLe_trans (as bs cs : List String) (hab : textsLe as bs = true)
    (hbc : textsLe bs cs = true) : textsLe as cs = true := by
  induction as generalizing bs cs with
  | nil => rfl
  | cons a as ih =>
    cases bs with
    | nil => cases hab
    | cons b bs =>
      cases cs with
      | nil => cases hbc
      | cons c cs =>
        rw [textsLe_cons_iff] at hab hbc ⊢
        by_cases hsame : Text.codes a.toList = Text.codes b.toList
        · rw [if_pos hsame] at hab
          rw [hsame, Text.le, hsame]
          split
          · rename_i hrest
            rw [if_pos hrest] at hbc
            exact ih bs cs hab hbc
          · rename_i hrest
            rw [if_neg hrest] at hbc
            exact hbc
        · rw [if_neg hsame] at hab
          by_cases hrest : Text.codes b.toList = Text.codes c.toList
          · rw [← hrest, if_neg hsame, Text.le, ← hrest]
            exact hab
          · rw [if_neg hrest] at hbc
            have hac : Text.le a c = true := Text.codesLe_trans hab hbc
            split
            · -- The first and the last text would be the same, and so the one between them.
              rename_i heq
              rw [Text.le, ← heq] at hbc
              exact absurd (Text.codesLe_antisymm hab hbc) hsame
            · exact hac

/-- Behind the same texts the next ones decide, if they differ. -/
theorem textsLe_append {a b : String} (h : Text.codes a.toList ≠ Text.codes b.toList)
    (front as bs : List String) :
    textsLe (front ++ a :: as) (front ++ b :: bs) = Text.le a b := by
  induction front with
  | nil => rw [List.nil_append, List.nil_append, textsLe, if_neg (mt beq_iff_eq.mp h)]
  | cons first front ih => rw [List.cons_append, List.cons_append, textsLe, if_pos BEq.rfl, ih]

/-! ## Violations -/

namespace Violation

/-- The violation concerns an item of the list at a path, or something in the item. -/
def IsInItem (path : List Step) (i : Nat) (violation : Violation) : Prop :=
  path ++ [.index i] <+: violation.path

variable {a b : Violation} {path : List Step} {i j : Nat}

theorem IsInItem.path_eq (h : a.IsInItem path i) :
    ∃ rest, a.path = path ++ .index i :: rest := by
  obtain ⟨rest, hrest⟩ := h
  exact ⟨rest, by rw [← hrest, List.append_assoc, List.singleton_append]⟩

/-- A violation is in one item of a list only. -/
theorem IsInItem.unique (hi : a.IsInItem path i) (hj : a.IsInItem path j) : i = j := by
  obtain ⟨rest, hrest⟩ := hi.path_eq
  obtain ⟨rest', hrest'⟩ := hj.path_eq
  rw [hrest, List.append_cancel_left_eq, List.cons.injEq, Step.index.injEq] at hrest'
  exact hrest'.1

/-- Violations in two items of a list are in the order of the texts of the positions. -/
theorem IsInItem.le_eq (ha : a.IsInItem path i) (hb : b.IsInItem path j) (hij : i ≠ j) :
    a.le b = Text.le (toString i) (toString j) := by
  obtain ⟨rest, hrest⟩ := ha.path_eq
  obtain ⟨rest', hrest'⟩ := hb.path_eq
  rw [Violation.le, hrest, hrest', List.map_append, List.map_append, List.map_cons, List.map_cons]
  exact textsLe_append (mt Text.codes_toString_injective hij) _ _ _

theorem le_trans (a b c : Violation) (hab : a.le b = true) (hbc : b.le c = true) :
    a.le c = true :=
  textsLe_trans _ _ _ hab hbc

theorem le_total (a b : Violation) : (a.le b || b.le a) = true := textsLe_total _ _

end Violation

namespace Schema

open FlowTemplate.Computation

/-- Of two violations in different items of a list, the first one in a report is in the item whose
position comes first as a text. -/
theorem sorted_lt_iff {violations : List Violation} {path : List Step} {i j : Nat} (hij : i < j)
    {m n : Nat} {a b : Violation} (ha : (violations.mergeSort Violation.le)[m]? = some a)
    (hb : (violations.mergeSort Violation.le)[n]? = some b) (hai : a.IsInItem path i)
    (hbj : b.IsInItem path j) : m < n ↔ Text.ComesFirst i j := by
  have hsorted := List.pairwise_iff_getElem.mp
    (List.pairwise_mergeSort Violation.le_trans Violation.le_total violations)
  obtain ⟨hm, rfl⟩ := List.getElem?_eq_some_iff.mp ha
  obtain ⟨hn, rfl⟩ := List.getElem?_eq_some_iff.mp hb
  rw [← Text.le_toString_iff (Nat.le_of_lt hij), ← hai.le_eq hbj (Nat.ne_of_lt hij)]
  refine ⟨hsorted m n hm hn, fun hle => Nat.lt_of_not_le fun hnm => ?_⟩
  rcases Nat.lt_or_eq_of_le hnm with hlt | rfl
  · -- Both would come before each other, and so be in the same item.
    have hge := hsorted n m hn hm hlt
    rw [hbj.le_eq hai (Nat.ne_of_gt hij)] at hge
    rw [hai.le_eq hbj (Nat.ne_of_lt hij)] at hle
    have hcodes := Text.codes_toString_injective (Text.codesLe_antisymm hle hge)
    omega
  · exact absurd (hai.unique hbj) (Nat.ne_of_lt hij)

/-- A report has a line for each violation that the schema finds, in an order in which a violation
in an item of a list comes before one in a later item exactly if the position of the first item
comes first as a text. So positions of equally many digits are in their order. -/
theorem Cache.report_inTextOrder {cache : Cache} {name root : String} {document v : Value}
    {report : List String} (h : (cache.report name document root v).1 = .ok report) :
    ∃ (resource : Resource) (violations : List Violation),
      (cache.fetch name document).1 = .ok resource ∧
      violations.Perm (Standard.library.check false resource v).violations ∧
      (∀ violation ∈ violations, violation.Concerns v) ∧
      report = violations.map (·.text root) ∧
      ∀ (path : List Step) (i j : Nat), i < j → ∀ (m n : Nat) (a b : Violation),
        violations[m]? = some a → violations[n]? = some b → a.IsInItem path i → b.IsInItem path j →
        (m < n ↔ Text.ComesFirst i j) ∧
          ((toString i).length = (toString j).length → m < n) := by
  obtain ⟨resource, hfetch, hreport⟩ := Cache.exists_of_report h
  have hperm := List.mergeSort_perm (Standard.library.check false resource v).violations
    Violation.le
  refine ⟨resource, _, hfetch, hperm, fun violation hmem => ?_, Resource.report_eq_ok hreport, ?_⟩
  · exact concerns_libraryCheck _ _ _ v violation (hperm.mem_iff.mp hmem)
  · intro path i j hij m n a b ha hb hai hbj
    have hiff := sorted_lt_iff hij ha hb hai hbj
    exact ⟨hiff, fun hlength =>
      hiff.mpr (Text.comesFirst_of_length_eq (Nat.le_of_lt hij) hlength)⟩

/-! ## A list of eleven items -/

/-- Two violations that are found in the wrong order change places. -/
theorem Resource.report_of_swapped {r : Resource} {root : String} {v : Value} {a b : Violation}
    (hviolations : (Standard.library.check false r v).violations = [a, b])
    (hfault : (Standard.library.check false r v).fault = none) (hle : a.le b = false) :
    r.report root v = .ok [b.text root, a.text root] := by
  have hsorted : [a, b].mergeSort Violation.le = [b, a] := by
    simp [List.mergeSort, List.MergeSort.Internal.splitInTwo, hle]
  rw [Resource.report, Report.violations?, hfault, hviolations, Except.map, lines, hsorted]
  rfl

/-- Asks every item to be a text. -/
def textItems : Value :=
  .object [("$schema", .str "http://json-schema.org/draft-07/schema#"),
    ("items", .single "type" (.str "string"))]

/-- Texts, but for numbers in the places 2 and 10. -/
def elevenItems : Value :=
  .list ([.str "", .str "", .int 2] ++ List.replicate 7 (.str "") ++ [.int 10])

theorem resourceOf_textItems : resourceOf textItems = .ok ⟨textItems, .draft7⟩ :=
  resourceOf_eq (ok_of_toOption (by decide +kernel)) (ok_of_toOption (by decide +kernel))

theorem report_textItems : (Resource.mk textItems .draft7).report "$" elevenItems =
    .ok ["$[10]: 10 is not of type 'string'", "$[2]: 2 is not of type 'string'"] :=
  Resource.report_of_swapped (a := ⟨[.index 2], "2 is not of type 'string'"⟩)
    (b := ⟨[.index 10], "10 is not of type 'string'"⟩)
    (by decide +kernel) (by decide +kernel) (by decide)

theorem Cache.report_inTextOrder_textItems : ∃ (report : List String)
    (violations : List Violation),
    (Cache.report [] "" textItems "$" elevenItems).1 = .ok report ∧
    report = violations.map (·.text "$") ∧ ¬ Text.ComesFirst 2 10 ∧
    ∀ (m n : Nat) (a b : Violation), violations[m]? = some a → violations[n]? = some b →
      a.IsInItem [] 2 → b.IsInItem [] 10 → ¬ m < n := by
  have h : (Cache.report [] "" textItems "$" elevenItems).1 =
      .ok ["$[10]: 10 is not of type 'string'", "$[2]: 2 is not of type 'string'"] := by
    rw [Cache.report_nil, bind_of_ok resourceOf_textItems]
    exact report_textItems
  have hfirst : ¬ Text.ComesFirst 2 10 := by decide
  obtain ⟨resource, violations, -, -, -, hreport, horder⟩ := Cache.report_inTextOrder h
  refine ⟨_, violations, h, hreport, hfirst, fun m n a b ha hb hai hbj hlt => hfirst ?_⟩
  exact (horder [] 2 10 (by decide) m n a b ha hb hai hbj).1.mp hlt

/-- The violation in the item 10 stands before the one in the item 2. -/
theorem Cache.report_elevenItems : (Cache.report [] "" textItems "$" elevenItems).1 =
    .ok ["$[10]: 10 is not of type 'string'", "$[2]: 2 is not of type 'string'"] := by
  rw [Cache.report_nil, bind_of_ok resourceOf_textItems]
  exact report_textItems

end Schema

end FlowTemplate
