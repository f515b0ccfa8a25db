import FlowTemplate.Proofs.Text.Surrogate
import FlowTemplate.Text.Wrap
import Mathlib.Data.List.TakeDrop
import Mathlib.Data.List.TakeWhile
/-!
# Parts of texts and their columns

A text of characters, none of them half of a surrogate pair, can be printed, and so can its parts.
The columns of a text are not those of its parts added up, since a joiner draws the character behind
it into the one before. But where one part ends in a blank, both take no more columns than the text.
-/

namespace FlowTemplate.Text

/-- What a text is split into where a property ends. -/
theorem of_span {α : Type} {p : α → Bool} {s before behind : List α}
    (h : s.span p = (before, behind)) :
    s = before ++ behind ∧ (∀ a ∈ before, p a = true) ∧ ∀ a ∈ behind.head?, p a = false := by
  rw [List.span_eq_takeWhile_dropWhile, Prod.mk.injEq] at h
  obtain ⟨rfl, rfl⟩ := h
  refine ⟨List.takeWhile_append_dropWhile.symm, fun a ha => List.mem_takeWhile_imp ha, ?_⟩
  intro a ha
  have hfirst := List.head?_dropWhile_not p s
  rw [ha] at hfirst
  simpa using hfirst

/-! ## Texts that can be printed -/

/-- A text of whole characters: it writes code points, and no half of a pair is among them. -/
def IsPrintable (s : List Char) : Prop :=
  ∃ row, (∀ n ∈ row, n < codeLimit ∧ isSurrogate n = false) ∧ s = ofCodes row

namespace IsPrintable

variable {s t : List Char}

theorem nil : IsPrintable [] := ⟨[], by simp, rfl⟩

theorem append (hs : IsPrintable s) (ht : IsPrintable t) : IsPrintable (s ++ t) := by
  obtain ⟨row, hrow, rfl⟩ := hs
  obtain ⟨others, hothers, rfl⟩ := ht
  exact ⟨row ++ others, List.forall_mem_append.mpr ⟨hrow, hothers⟩, List.flatMap_append.symm⟩

theorem singleton {c : Char} (hc : c ≠ mark) : IsPrintable [c] := by
  refine ⟨[c.toNat], ?_, ?_⟩
  · have hvalid : c.toNat < 0xD800 ∨ 0xDFFF < c.toNat ∧ c.toNat < 0x110000 := c.valid
    simp only [List.mem_singleton, forall_eq, isSurrogate, isHighSurrogate, isLowSurrogate,
      Bool.or_eq_false_iff, Bool.and_eq_false_iff, decide_eq_false_iff_not]
    exact ⟨toNat_lt_codeLimit c, by omega⟩
  · simp [ofCodes, ofCodePoint_toNat hc]

theorem cons {c : Char} (hc : c ≠ mark) (hs : IsPrintable s) : IsPrintable (c :: s) :=
  (singleton hc).append hs

theorem of_mark_notMem (h : mark ∉ s) : IsPrintable s := by
  induction s with
  | nil => exact nil
  | cons c s ih =>
    obtain ⟨hc, hs⟩ := not_or.mp (mt List.mem_cons.mpr h)
    exact cons (Ne.symm hc) (ih hs)

theorem flatMap {α : Type} {items : List α} {f : α → List Char}
    (h : ∀ item ∈ items, IsPrintable (f item)) : IsPrintable (items.flatMap f) := by
  induction items with
  | nil => exact nil
  | cons item items ih =>
    obtain ⟨hitem, hitems⟩ := List.forall_mem_cons.mp h
    exact hitem.append (ih hitems)

theorem intercalate (hs : IsPrintable s) {parts : List (List Char)}
    (h : ∀ part ∈ parts, IsPrintable part) : IsPrintable (s.intercalate parts) := by
  induction parts with
  | nil => exact nil
  | cons part rest ih =>
    obtain ⟨hpart, hrest⟩ := List.forall_mem_cons.mp h
    cases rest with
    | nil => simpa [List.intercalate] using hpart
    | cons next rest =>
      rw [List.intercalate_cons_cons]
      exact (hpart.append hs).append (ih hrest)

theorem ofCodes_codes (hs : IsPrintable s) : ofCodes (codes s) = s := by
  obtain ⟨row, hrow, rfl⟩ := hs
  rw [codes_ofCodes fun n hn => (hrow n hn).1]

theorem codes_append (hs : IsPrintable s) (t : List Char) : codes (s ++ t) = codes s ++ codes t :=
  Text.codes_append hs.ofCodes_codes t

/-- A code point that is no half is written with one character, or with the mark twice. -/
theorem ofCodePoint_cases {n : Nat} (hhalf : isSurrogate n = false) :
    ofCodePoint n = [mark, mark] ∨ ∃ c, ofCodePoint n = [c] := by
  unfold ofCodePoint
  rw [hhalf]
  simp only [Bool.false_eq_true, if_false]
  split
  · exact .inl rfl
  · exact .inr ⟨_, rfl⟩

/-- A text can be divided wherever another character than the mark stands: the mark stands only in
pairs. -/
theorem split {c : Char} (hc : c ≠ mark) {s t : List Char} (h : IsPrintable (s ++ c :: t)) :
    IsPrintable s ∧ IsPrintable t := by
  obtain ⟨row, hrow, heq⟩ := h
  induction row generalizing s with
  | nil => simp [ofCodes] at heq
  | cons n row ih =>
    obtain ⟨hn, hrest⟩ := List.forall_mem_cons.mp hrow
    have hunit : IsPrintable (ofCodePoint n) := ⟨[n], by simpa using hn, by simp [ofCodes]⟩
    have htail : ofCodes (n :: row) = ofCodePoint n ++ ofCodes row := List.flatMap_cons
    rw [htail] at heq
    rcases ofCodePoint_cases hn.2 with hpair | ⟨d, hone⟩
    · rw [hpair] at heq hunit
      rcases s with _ | ⟨x, _ | ⟨y, s⟩⟩
      · exact absurd (List.cons.inj heq).1 hc
      · exact absurd (List.cons.inj (List.cons.inj heq).2).1 hc
      · simp only [List.cons_append, List.nil_append, List.cons.injEq] at heq
        obtain ⟨rfl, rfl, hbehind⟩ := heq
        obtain ⟨hs, ht⟩ := ih hrest hbehind
        exact ⟨hunit.append hs, ht⟩
    · rw [hone] at heq hunit
      rcases s with _ | ⟨x, s⟩
      · exact ⟨nil, row, hrest, (List.cons.inj heq).2⟩
      · simp only [List.cons_append, List.nil_append, List.cons.injEq] at heq
        obtain ⟨rfl, hbehind⟩ := heq
        obtain ⟨hs, ht⟩ := ih hrest hbehind
        exact ⟨hunit.append hs, ht⟩

theorem isSome_plain? {s : String} (h : IsPrintable s.toList) : (plain? s).isSome = true := by
  obtain ⟨row, hrow, hs⟩ := h
  have hcodes : codes s.toList = row := by
    rw [hs, codes_ofCodes fun n hn => (hrow n hn).1]
  have hany : row.any isSurrogate = false := by
    simpa using fun n hn => (hrow n hn).2
  simp [plain?, hcodes, hany]

end IsPrintable

/-! ## Columns -/

theorem cellsOfCode_le_two (n : Nat) : cellsOfCode n ≤ 2 := by
  unfold cellsOfCode
  split
  · decide
  · split
    · decide
    · split <;> decide

theorem addedCells_le_one (last : Option Nat) : addedCells last ≤ 1 := by
  unfold addedCells
  split <;> decide

/-- No character is wider than two columns. -/
theorem cellsOf_singleton_le (c : Char) : cellsOf [c] ≤ 2 := by
  have hcode := cellsOfCode_le_two c.toNat
  have hadded := addedCells_le_one none
  simp only [cellsOf, codes, cellsAfter]
  split
  · omega
  · split <;> omega

theorem cellsAfter_none_le (last : Option Nat) (row : List Nat) :
    cellsAfter none row ≤ cellsAfter last row := by
  have hadded : addedCells none = 0 := rfl
  fun_induction cellsAfter last row with
  | case1 => exact Nat.zero_le _
  | case2 last n hjoiner => simp [cellsAfter, hjoiner]
  | case3 last n hjoiner hstyle => simp [cellsAfter, hjoiner, hstyle, hadded]
  | case4 last n hjoiner hstyle => simp [cellsAfter, hjoiner, hstyle]
  | case5 last n next rest hjoiner ih => simpa [cellsAfter, hjoiner] using ih
  | case6 last n next rest hjoiner hstyle ih => simp [cellsAfter, hjoiner, hstyle, hadded]
  | case7 last n next rest hjoiner hstyle ih =>
    have hrest : cellsAfter (lastMeasured none n) (next :: rest) ≤
        cellsAfter (lastMeasured last n) (next :: rest) := by
      unfold lastMeasured at ih ⊢
      split
      · rename_i hzero
        simpa [hzero] using ih
      · exact Nat.le_refl _
    simpa [cellsAfter, hjoiner, hstyle] using hrest

/-- Behind a text that no joiner ends, another one takes no more columns than it takes alone. -/
theorem cellsAfter_append_ge (last : Option Nat) {row : List Nat}
    (hend : ∀ n ∈ row.getLast?, n ≠ joiner) (behind : List Nat) :
    cellsAfter last row + cellsAfter none behind ≤ cellsAfter last (row ++ behind) := by
  fun_induction cellsAfter last row with
  | case1 last => simpa [cellsAfter] using cellsAfter_none_le last behind
  | case2 last n hjoiner => exact absurd (beq_iff_eq.mp hjoiner) (hend n rfl)
  | case3 last n hjoiner hstyle =>
    cases behind <;> simp [cellsAfter, hjoiner, hstyle]
  | case4 last n hjoiner hstyle =>
    cases behind with
    | nil => simp [cellsAfter, hjoiner, hstyle]
    | cons m behind =>
      have hle := cellsAfter_none_le (lastMeasured last n) (m :: behind)
      simpa [cellsAfter, hjoiner, hstyle] using hle
  | case5 last n next rest hjoiner ih =>
    have hrest : ∀ m ∈ rest.getLast?, m ≠ joiner := by
      intro m hm
      refine hend m ?_
      rw [List.getLast?_cons, List.getLast?_cons, hm]
      rfl
    simpa [cellsAfter, hjoiner] using ih hrest
  | case6 last n next rest hjoiner hstyle ih =>
    have hsum := ih (by simpa [List.getLast?_cons] using hend)
    simp only [List.cons_append, cellsAfter, hjoiner, hstyle, Bool.false_eq_true, if_false,
      if_true] at hsum ⊢
    omega
  | case7 last n next rest hjoiner hstyle ih =>
    have hsum := ih (by simpa [List.getLast?_cons] using hend)
    simp only [List.cons_append, cellsAfter, hjoiner, hstyle, Bool.false_eq_true, if_false]
      at hsum ⊢
    omega

theorem cellsAfter_le_append (last : Option Nat) (row behind : List Nat) :
    cellsAfter last row ≤ cellsAfter last (row ++ behind) := by
  fun_induction cellsAfter last row with
  | case1 => exact Nat.zero_le _
  | case2 => exact Nat.zero_le _
  | case3 last n hjoiner hstyle => cases behind <;> simp [cellsAfter, hjoiner, hstyle]
  | case4 last n hjoiner hstyle => cases behind <;> simp [cellsAfter, hjoiner, hstyle]
  | case5 last n next rest hjoiner ih => simpa [cellsAfter, hjoiner] using ih
  | case6 last n next rest hjoiner hstyle ih => simpa [cellsAfter, hjoiner, hstyle] using ih
  | case7 last n next rest hjoiner hstyle ih => simpa [cellsAfter, hjoiner, hstyle] using ih

theorem IsPrintable.cellsOf_le_append {s : List Char} (hs : IsPrintable s) (t : List Char) :
    cellsOf s ≤ cellsOf (s ++ t) := by
  unfold cellsOf
  rw [hs.codes_append]
  exact cellsAfter_le_append none (codes s) (codes t)

/-! ## Blanks -/

theorem ne_mark_of_isBlank {c : Char} (h : isBlank c = true) : c ≠ mark := by
  rintro rfl
  revert h
  decide

theorem toNat_ne_joiner_of_isBlank {c : Char} (h : isBlank c = true) : c.toNat ≠ joiner := by
  intro hjoiner
  have hc : c = Char.ofNat joiner := by rw [← hjoiner, Char.ofNat_toNat]
  rw [hc] at h
  revert h
  decide

/-- Behind a text that a blank ends, another one takes the columns it takes alone. -/
theorem cellsOf_append_ge {s t : List Char} {c : Char} (hc : isBlank c = true)
    (h : IsPrintable (s ++ [c])) : cellsOf (s ++ [c]) + cellsOf t ≤ cellsOf (s ++ [c] ++ t) := by
  have hs : IsPrintable s := (IsPrintable.split (ne_mark_of_isBlank hc) h).1
  have hlast : codes (s ++ [c]) = codes s ++ [c.toNat] := hs.codes_append [c]
  unfold cellsOf
  rw [h.codes_append]
  refine cellsAfter_append_ge none ?_ (codes t)
  rw [hlast]
  simpa using toNat_ne_joiner_of_isBlank hc

/-- A text without the blanks at its end is the start of it. -/
theorem exists_trimEnd_append (s : List Char) :
    ∃ blanks, s = trimEnd s ++ blanks ∧ ∀ c ∈ blanks, isBlank c = true := by
  refine ⟨(s.reverse.takeWhile isBlank).reverse, ?_, ?_⟩
  · rw [trimEnd, ← List.reverse_append, List.takeWhile_append_dropWhile, List.reverse_reverse]
  · intro c hc
    exact List.mem_takeWhile_imp (List.mem_reverse.mp hc)

theorem IsPrintable.trimEnd {s : List Char} (hs : IsPrintable s) : IsPrintable (trimEnd s) := by
  obtain ⟨blanks, heq, hblanks⟩ := exists_trimEnd_append s
  cases blanks with
  | nil =>
    rw [List.append_nil] at heq
    exact heq ▸ hs
  | cons c blanks => exact (split (ne_mark_of_isBlank (hblanks c List.mem_cons_self)) (heq ▸ hs)).1

theorem IsPrintable.cellsOf_trimEnd_le {s : List Char} (hs : IsPrintable s) :
    cellsOf (Text.trimEnd s) ≤ cellsOf s := by
  obtain ⟨blanks, heq, -⟩ := exists_trimEnd_append s
  have hle := hs.trimEnd.cellsOf_le_append blanks
  rwa [← heq] at hle

theorem trimEnd_eq_self {s : List Char} (h : ∀ c ∈ s.getLast?, isBlank c = false) :
    trimEnd s = s := by
  have hkept : s.reverse.dropWhile isBlank = s.reverse := by
    cases hreverse : s.reverse with
    | nil => rfl
    | cons c rest =>
      refine List.dropWhile_cons_of_neg ?_
      rw [← List.head?_reverse, hreverse] at h
      simpa using h c rfl
  rw [trimEnd, hkept, List.reverse_reverse]

end FlowTemplate.Text
