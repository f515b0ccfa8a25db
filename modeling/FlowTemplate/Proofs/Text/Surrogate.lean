import FlowTemplate.Text.Surrogate
/-!
# Code points of a text

A row of code points is written as a string in one way, and reading the string yields the row. A
string in which a mark stands at the wrong place writes no row. Behind a string that does, what
follows is read as it would be by itself, so sizes add up.
-/

namespace FlowTemplate.Text

/-- The string writes a row of code points. -/
def IsRow (s : String) : Prop := ofCodes (codes s.toList) = s.toList

/-- One past the last code point. -/
def codeLimit : Nat := 0x110000

theorem toNat_lt_codeLimit (c : Char) : c.toNat < codeLimit := by
  have hvalid := c.valid
  change c.toNat < 0xD800 ∨ 0xDFFF < c.toNat ∧ c.toNat < 0x110000 at hvalid
  rw [codeLimit]
  omega

theorem toNat_ofNat {n : Nat} (hsurrogate : isSurrogate n = false) (hlimit : n < codeLimit) :
    (Char.ofNat n).toNat = n := by
  rw [codeLimit] at hlimit
  simp only [isSurrogate, isHighSurrogate, isLowSurrogate, Bool.or_eq_false_iff,
    Bool.and_eq_false_iff, decide_eq_false_iff_not] at hsurrogate
  have hvalid : n.isValidChar := by
    rw [Nat.isValidChar]
    omega
  rw [Char.ofNat, dif_pos hvalid]
  rfl

theorem codes_cons_of_ne {c : Char} (h : c ≠ mark) (rest : List Char) :
    codes (c :: rest) = c.toNat :: codes rest := by
  cases rest with
  | nil => rfl
  | cons d rest => rw [codes, if_neg (by simpa using h)]

/-- A code point is read back, whatever follows it. -/
theorem codes_ofCodePoint_append {n : Nat} (hlimit : n < codeLimit) (rest : List Char) :
    codes (ofCodePoint n ++ rest) = n :: codes rest := by
  rw [ofCodePoint]
  by_cases hsurrogate : isSurrogate n = true
  · have hrange : 0xD800 ≤ n ∧ n ≤ 0xDFFF := by
      simp only [isSurrogate, isHighSurrogate, isLowSurrogate, Bool.or_eq_true, Bool.and_eq_true,
        decide_eq_true_eq] at hsurrogate
      omega
    have hshifted : (Char.ofNat (n + surrogateShift)).toNat = n + surrogateShift := by
      apply toNat_ofNat
      · rw [Bool.eq_false_iff, surrogateShift]
        simp only [isSurrogate, isHighSurrogate, isLowSurrogate, ne_eq, Bool.or_eq_true,
          Bool.and_eq_true, decide_eq_true_eq]
        omega
      · rw [codeLimit, surrogateShift]
        omega
    have hne : Char.ofNat (n + surrogateShift) ≠ mark := by
      intro heq
      have hmark : n + surrogateShift = mark.toNat := by rw [← hshifted, heq]
      have : mark.toNat = 0xFDD0 := rfl
      rw [surrogateShift] at hmark
      omega
    rw [if_pos hsurrogate, List.cons_append, List.cons_append, List.nil_append, codes,
      if_pos BEq.rfl, if_neg (by simpa using hne), hshifted, Nat.add_sub_cancel]
  · rw [if_neg hsurrogate]
    by_cases hmark : n = mark.toNat
    · rw [if_pos (by simpa using hmark), List.cons_append, List.cons_append, List.nil_append, codes,
        if_pos BEq.rfl, if_pos BEq.rfl, hmark]
    · have hchar := toNat_ofNat (Bool.eq_false_iff.mpr hsurrogate) hlimit
      have hne : Char.ofNat n ≠ mark := by
        intro heq
        exact hmark (by rw [← hchar, heq])
      rw [if_neg (by simpa using hmark), List.singleton_append, codes_cons_of_ne hne, hchar]

/-- A row of code points is read back, whatever follows it. -/
theorem codes_ofCodes_append {row : List Nat} (hrow : ∀ n ∈ row, n < codeLimit)
    (rest : List Char) : codes (ofCodes row ++ rest) = row ++ codes rest := by
  induction row with
  | nil => rfl
  | cons n row ih =>
    obtain ⟨hn, hrow⟩ := List.forall_mem_cons.mp hrow
    rw [ofCodes, List.flatMap_cons, List.append_assoc, codes_ofCodePoint_append hn, ← ofCodes,
      ih hrow, List.cons_append]

theorem codes_ofCodes {row : List Nat} (hrow : ∀ n ∈ row, n < codeLimit) :
    codes (ofCodes row) = row := by
  have happend := codes_ofCodes_append hrow []
  rwa [List.append_nil, codes, List.append_nil] at happend

/-- Every row of code points is written by a string. -/
theorem isRow_ofCodes {row : List Nat} (hrow : ∀ n ∈ row, n < codeLimit) :
    IsRow (String.ofList (ofCodes row)) := by
  rw [IsRow, String.toList_ofList, codes_ofCodes hrow]

/-- What is read is a row of code points. -/
theorem lt_codeLimit_of_mem_codes : (cs : List Char) → ∀ n ∈ codes cs, n < codeLimit
  | [], n, hn => absurd hn List.not_mem_nil
  | [c], n, hn => by
    rw [codes, List.mem_singleton] at hn
    exact hn ▸ toNat_lt_codeLimit c
  | c :: d :: rest, n, hn => by
    rw [codes] at hn
    split at hn
    · rcases List.mem_cons.mp hn with rfl | hlater
      · have hd := toNat_lt_codeLimit d
        split
        · exact toNat_lt_codeLimit mark
        · omega
      · exact lt_codeLimit_of_mem_codes rest n hlater
    · rcases List.mem_cons.mp hn with rfl | hlater
      · exact toNat_lt_codeLimit c
      · exact lt_codeLimit_of_mem_codes (d :: rest) n hlater

theorem codes_append {cs : List Char} (h : ofCodes (codes cs) = cs) (rest : List Char) :
    codes (cs ++ rest) = codes cs ++ codes rest := by
  have happend := codes_ofCodes_append (lt_codeLimit_of_mem_codes cs) rest
  rwa [h] at happend

theorem size_append {s : String} (h : IsRow s) (t : String) : size (s ++ t) = size s + size t := by
  rw [size, size, size, String.toList_append, codes_append h, List.length_append]

theorem codes_cut (count : Nat) (s : String) :
    codes (cut count s).toList = (codes s.toList).take count := by
  rw [cut, String.toList_ofList]
  exact codes_ofCodes fun n hn => lt_codeLimit_of_mem_codes s.toList n (List.mem_of_mem_take hn)

theorem isRow_cut (count : Nat) (s : String) : IsRow (cut count s) :=
  isRow_ofCodes fun n hn => lt_codeLimit_of_mem_codes s.toList n (List.mem_of_mem_take hn)

theorem size_cut (count : Nat) (s : String) : size (cut count s) = min count (size s) := by
  rw [size, codes_cut, List.length_take, size]

/-- Characters other than the mark count one each. -/
theorem codes_of_mark_notMem {cs : List Char} (h : mark ∉ cs) : codes cs = cs.map Char.toNat := by
  induction cs with
  | nil => rfl
  | cons c rest ih =>
    obtain ⟨hne, hrest⟩ := not_or.mp (mt List.mem_cons.mpr h)
    rw [codes_cons_of_ne (Ne.symm hne), ih hrest, List.map_cons]

theorem ofCodePoint_toNat {c : Char} (h : c ≠ mark) : ofCodePoint c.toNat = [c] := by
  have hvalid : c.toNat < 0xD800 ∨ 0xDFFF < c.toNat ∧ c.toNat < 0x110000 := c.valid
  have hsurrogate : isSurrogate c.toNat = false := by
    simp only [isSurrogate, isHighSurrogate, isLowSurrogate, Bool.or_eq_false_iff,
      Bool.and_eq_false_iff, decide_eq_false_iff_not]
    omega
  have hmark : (c.toNat == mark.toNat) = false := by
    rw [beq_eq_false_iff_ne, ne_eq, Char.toNat_inj]
    exact h
  rw [ofCodePoint, hsurrogate, hmark, Char.ofNat_toNat]
  rfl

/-- Characters other than the mark write themselves. -/
theorem ofCodes_of_mark_notMem {cs : List Char} (h : mark ∉ cs) :
    ofCodes (cs.map Char.toNat) = cs := by
  induction cs with
  | nil => rfl
  | cons c rest ih =>
    obtain ⟨hne, hrest⟩ := not_or.mp (mt List.mem_cons.mpr h)
    rw [List.map_cons, ofCodes, List.flatMap_cons, ofCodePoint_toNat (Ne.symm hne), ← ofCodes,
      ih hrest, List.singleton_append]

end FlowTemplate.Text
