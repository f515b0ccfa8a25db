import FlowTemplate.Proofs.Json.Printed
import FlowTemplate.Proofs.Number.Shortest
/-!
# Printed doubles

A double is printed as a number of the grammar, with a point or an exponent, or as one of the words
for what is no number. The number stands for a decimal near the double, so that it is read back as
the double.
-/

namespace FlowTemplate

/-- The double that is read for a double: only one of those that are no number is ever read. -/
def Binary64.reread (x : Binary64) : Binary64 := if x.isNaN then .nan else x

theorem Binary64.reread_of_number {x : Binary64} (h : x.kind ≠ .nan) : x.reread = x := by
  refine if_neg fun hnan => h ?_
  rwa [isNaN, beq_iff_eq] at hnan

namespace Json

open Binary64 (decimal IsFinite IsNear)

/-! ## Zeros beside digits -/

theorem digitsValue_zeros_append (count : Nat) (s : List Char) :
    digitsValue (List.replicate count '0' ++ s) = digitsValue s := by
  induction count with
  | zero => rfl
  | succ count ih =>
    rw [List.replicate_succ, List.cons_append]
    exact ih

theorem digitsValue_append_zeros (s : List Char) (count : Nat) :
    digitsValue (s ++ List.replicate count '0') = digitsValue s * 10 ^ count := by
  induction count with
  | zero => simp
  | succ count ih =>
    rw [List.replicate_succ', ← List.append_assoc, digitsValue, List.foldl_concat, ← digitsValue,
      ih, pow_succ]
    simp [Nat.mul_assoc]

/-! ## Decimals in the grammar -/

/-- The text is a number with a point or an exponent, and stands for the rational number. -/
inductive Spells : List Char → Rat → Prop
  | parts {whole places power : List Char} {fraction : Option (List Char)} {exponent : Option Int}
      (isWhole : Whole whole) (isFraction : Fraction places fraction)
      (isExponent : Exponent power exponent)
      (isDouble : fraction.isSome = true ∨ exponent.isSome = true) :
      Spells (whole ++ (places ++ power)) (decimal (digitsValue (whole ++ fraction.getD []))
        (exponent.getD 0 - (fraction.getD []).length))

/-- A number for a decimal near a double is read as the double. -/
theorem Spells.number {s : List Char} {x : Rat} (h : Spells s x) {m : Nat} {q : Int}
    (hfinite : IsFinite m q) (hm : 0 < m) (hnear : IsNear x m q) (negative : Bool) :
    Number negative s
      (.float (.ofMagnitude negative ((q + 1074).toNat * 2 ^ 52 + m))) := by
  obtain ⟨isWhole, isFraction, isExponent, isDouble⟩ := h
  rw [← Binary64.ofDecimal_of_isNear hfinite hm hnear negative]
  have hnumber : Number negative _ _ := .parts isWhole isFraction isExponent
  rcases isDouble with h | h <;> obtain ⟨_, rfl⟩ := Option.isSome_iff_exists.mp h
  · exact hnumber
  · cases isFraction <;> exact hnumber

theorem spells_point {whole places : List Char} (isWhole : Whole whole) (isDigits : Digits places) :
    Spells (whole ++ '.' :: places) (decimal (digitsValue (whole ++ places)) (-places.length)) := by
  have hspells := Spells.parts isWhole (.present isDigits) .absent (.inl rfl)
  simpa using hspells

/-- Digits that start like a number other than zero stand before a point. -/
theorem whole_append {n : Nat} (hn : 0 < n) {s rest more : List Char}
    (hdigits : Nat.toDigits 10 n = s ++ rest) (hs : s ≠ [])
    (hmore : ∀ c ∈ more, c.isDigit = true) : Whole (s ++ more) := by
  obtain ⟨c, tail, hhead, hc⟩ := toDigits_head hn
  obtain ⟨d, s, rfl⟩ := List.exists_cons_of_ne_nil hs
  have hall := (digits_toDigits n).2
  rw [hdigits] at hhead hall
  obtain ⟨rfl, -⟩ := List.cons.inj hhead
  refine .digits hc ⟨List.cons_ne_nil _ _, fun x hx => ?_⟩
  rcases List.mem_append.mp (List.cons_append ▸ hx : x ∈ (d :: s) ++ more) with h | h
  · exact hall x (List.mem_append_left _ h)
  · exact hmore x h

theorem isDigit_zeros (count : Nat) : ∀ c ∈ List.replicate count '0', c.isDigit = true := by
  intro c hc
  rw [List.eq_of_mem_replicate hc]
  rfl

/-- A whole number is spelled with its zeros and a place. -/
theorem spells_whole {n : Nat} (hn : 0 < n) {e : Int} (he : 0 ≤ e) :
    Spells (Nat.toDigits 10 n ++ List.replicate e.toNat '0' ++ ['.', '0']) (decimal n e) := by
  have hwhole : Whole (Nat.toDigits 10 n ++ List.replicate e.toNat '0') :=
    whole_append hn (List.append_nil _).symm Nat.toDigits_ne_nil (isDigit_zeros _)
  have hplace : Digits ['0'] := ⟨List.cons_ne_nil _ _, by simp⟩
  have hspells := spells_point hwhole hplace
  have hdecimal : decimal (digitsValue (Nat.toDigits 10 n ++ List.replicate e.toNat '0' ++ ['0']))
      (-(['0'].length : Int)) = decimal n e := by
    rw [List.append_assoc, ← List.replicate_succ', digitsValue_append_zeros, digitsValue_toDigits,
      decimal, decimal, Nat.cast_mul, mul_assoc]
    congr 1
    rw [Nat.cast_pow, ← zpow_natCast, Nat.cast_ofNat, ← zpow_add₀ (by norm_num)]
    congr 1
    rw [List.length_singleton]
    omega
  rwa [hdecimal] at hspells

/-- The digits of a number, with zeros in front so that one digit comes before the places. -/
def padded (n places : Nat) : List Char :=
  List.replicate (places + 1 - (Nat.toDigits 10 n).length) '0' ++ Nat.toDigits 10 n

theorem length_padded (n places : Nat) : (padded n places).length =
    places + 1 - (Nat.toDigits 10 n).length + (Nat.toDigits 10 n).length := by
  rw [padded, List.length_append, List.length_replicate]

theorem isDigit_padded (n places : Nat) : ∀ c ∈ padded n places, c.isDigit = true := by
  intro c hc
  rcases List.mem_append.mp hc with h | h
  · exact isDigit_zeros _ c h
  · exact (digits_toDigits n).2 c h

theorem whole_take_padded {n : Nat} (hn : 0 < n) (places : Nat) :
    Whole ((padded n places).take ((padded n places).length - places)) := by
  have hlength := length_padded n places
  by_cases hshort : (Nat.toDigits 10 n).length ≤ places
  · -- The number is below one: a zero comes before the point.
    have hone : (padded n places).length - places = 1 := by omega
    obtain ⟨count, hcount⟩ : ∃ count, places + 1 - (Nat.toDigits 10 n).length = count + 1 :=
      ⟨places - (Nat.toDigits 10 n).length, by omega⟩
    rw [hone, padded, hcount]
    exact .zero
  · have hdigits : padded n places = Nat.toDigits 10 n := by
      rw [padded, show places + 1 - (Nat.toDigits 10 n).length = 0 by omega, List.replicate_zero,
        List.nil_append]
    rw [hdigits] at hlength ⊢
    rw [← List.append_nil (List.take _ _)]
    refine whole_append hn (List.take_append_drop _ _).symm (List.ne_nil_of_length_pos ?_)
      fun c hc => absurd hc List.not_mem_nil
    rw [List.length_take]
    omega

/-- A number with places is spelled with the point among its digits. -/
theorem spells_places {n : Nat} (hn : 0 < n) {e : Int} (he : e < 0) :
    Spells ((padded n (-e).toNat).take ((padded n (-e).toNat).length - (-e).toNat) ++
      '.' :: (padded n (-e).toNat).drop ((padded n (-e).toNat).length - (-e).toNat))
      (decimal n e) := by
  have hwhole := whole_take_padded hn (-e).toNat
  have hlength := length_padded n (-e).toNat
  have hall := isDigit_padded n (-e).toNat
  have hvalue : digitsValue (padded n (-e).toNat) = n := by
    rw [padded, digitsValue_zeros_append, digitsValue_toDigits]
  generalize padded n (-e).toNat = digits at *
  generalize hbefore : digits.length - (-e).toNat = before at *
  have hplaces : (digits.drop before).length = (-e).toNat := by
    rw [List.length_drop]
    omega
  have hdigits : Digits (digits.drop before) :=
    ⟨List.ne_nil_of_length_pos (by omega), fun c hc => hall c (List.mem_of_mem_drop hc)⟩
  have hspells := spells_point hwhole hdigits
  rwa [List.take_append_drop, hvalue, hplaces,
    show -((-e).toNat : Int) = e by omega] at hspells

theorem spells_positional {n : Nat} (hn : 0 < n) (e : Int) :
    Spells (Binary64.positional n e).toList (decimal n e) := by
  unfold Binary64.positional
  dsimp only
  by_cases he : e ≥ 0
  · rw [if_pos he, String.toList_append, String.toList_ofList]
    exact spells_whole hn he
  · rw [if_neg he, String.toList_append, String.toList_append, String.toList_ofList,
      String.toList_ofList, String.toList_ofList, List.append_assoc]
    exact spells_places hn (Int.not_le.mp he)

theorem exponent_of_digits {power : List Char} (isDigits : Digits power) {exponent : Int}
    (hvalue : digitsValue power = exponent.natAbs) :
    Exponent ((if exponent < 0 then "e-" else "e+").toList ++ power) (some exponent) := by
  by_cases hnegative : exponent < 0
  · have hexponent := Exponent.present (.inl rfl) .minus isDigits
    rw [if_pos rfl, hvalue, show -(exponent.natAbs : Int) = exponent by omega] at hexponent
    rwa [if_pos hnegative]
  · have hexponent := Exponent.present (.inl rfl) .plus isDigits
    rw [if_neg (by decide), hvalue, show (exponent.natAbs : Int) = exponent by omega] at hexponent
    rwa [if_neg hnegative]

theorem spells_exponential {n : Nat} (hn : 0 < n) (e : Int) :
    Spells (Binary64.exponential n e).toList (decimal n e) := by
  obtain ⟨c, rest, hdigits, hc⟩ := toDigits_head hn
  have hall := (digits_toDigits n).2
  have hvalue := digitsValue_toDigits n
  unfold Binary64.exponential
  rw [hdigits] at hall hvalue ⊢
  dsimp only
  have hwhole : Whole [c] :=
    .digits hc ⟨List.cons_ne_nil _ _, by simpa using hall c List.mem_cons_self⟩
  generalize hexponent : e + ((c :: rest).length : Int) - 1 = exponent
  have hpower : Exponent ((if exponent < 0 then "e-" else "e+").toList ++
      (if (Nat.toDigits 10 exponent.natAbs).length < 2 then '0' :: Nat.toDigits 10 exponent.natAbs
        else Nat.toDigits 10 exponent.natAbs)) (some exponent) := by
    have hdigitsExponent := digits_toDigits exponent.natAbs
    refine exponent_of_digits ?_ ?_
    · split
      · exact ⟨List.cons_ne_nil _ _, List.forall_mem_cons.mpr ⟨rfl, hdigitsExponent.2⟩⟩
      · exact hdigitsExponent
    · split
      · exact (digitsValue_zeros_append 1 _).trans (digitsValue_toDigits _)
      · exact digitsValue_toDigits _
  rw [String.toList_append, String.toList_append, String.toList_ofList, List.append_assoc]
  cases rest with
  | nil =>
    have hspells := Spells.parts hwhole .absent hpower (.inr rfl)
    have hexact : exponent - ((none.getD [] : List Char).length : Int) = e := by
      simp at hexponent ⊢
      omega
    rw [Option.getD_some, hexact, Option.getD_none, List.append_nil, hvalue] at hspells
    simpa using hspells
  | cons d rest =>
    have hplaces : Digits (d :: rest) :=
      ⟨List.cons_ne_nil _ _, fun x hx => hall x (List.mem_cons_of_mem c hx)⟩
    have hspells := Spells.parts hwhole (.present hplaces) hpower (.inr rfl)
    have hexact : exponent - ((d :: rest).length : Int) = e := by
      rw [List.length_cons] at hexponent
      omega
    rw [Option.getD_some, Option.getD_some, hexact, List.singleton_append, List.singleton_append,
      hvalue] at hspells
    simpa using hspells

/-! ## Doubles -/

theorem scalar_word (word : String) {a : Atom} (h : (word, a) ∈ words) : Scalar word.toList a :=
  .word h

/-- A finite double is printed as a number for it, behind its sign. -/
theorem exists_number {x : Binary64} {negative : Bool} {m : Nat} {q : Int}
    (h : x.kind = .finite negative m q) : ∃ body : String,
      x.text floatLayout = (if negative then "-" else "") ++ body ∧
        Number negative body.toList (.float x) := by
  obtain ⟨hfinite, hbits⟩ := Binary64.of_kind_eq_finite h
  rw [Binary64.text, h]
  dsimp only
  refine ⟨_, rfl, ?_⟩
  rw [← hbits]
  by_cases hm : m = 0
  · subst hm
    have hleast : q = -1074 := hfinite.normal.resolve_left (by decide)
    have hplaces : Digits ['0'] := ⟨List.cons_ne_nil _ _, by simp⟩
    have hzero : Number negative _ _ := .parts .zero (.present hplaces) .absent
    rw [if_pos rfl, hleast]
    exact hzero
  · have hpos := Nat.pos_of_ne_zero hm
    have hnear := Binary64.isNear_shortest hfinite hpos
    have hn : 0 < (Binary64.shortest m q).1 := by
      have hdecimal := hnear.pos hpos
      exact_mod_cast (mul_pos_iff_of_pos_right (Binary64.ten_zpow_pos _)).mp hdecimal
    rw [if_neg hm]
    split
    · exact (spells_positional hn _).number hfinite hpos hnear negative
    · exact (spells_exponential hn _).number hfinite hpos hnear negative

/-- A double is printed as what is read as the double. -/
theorem scalar_double (x : Binary64) : Scalar (x.text floatLayout).toList (.float x.reread) := by
  cases hkind : x.kind with
  | nan =>
    have hreread : x.reread = .nan := if_pos (by rw [Binary64.isNaN, hkind]; rfl)
    rw [Binary64.text, hkind, hreread]
    exact scalar_word "NaN" (by simp [words])
  | infinite negative =>
    have hreread : x.reread = x :=
      Binary64.reread_of_number (by rw [hkind]; exact Binary64.Kind.noConfusion)
    rw [hreread, Binary64.text, hkind, ← Binary64.of_kind_eq_infinite hkind]
    cases negative with
    | false => exact scalar_word "Infinity" (by simp [words])
    | true => exact scalar_word "-Infinity" (by simp [words])
  | finite negative m q =>
    have hreread : x.reread = x :=
      Binary64.reread_of_number (by rw [hkind]; exact Binary64.Kind.noConfusion)
    obtain ⟨body, htext, hnumber⟩ := exists_number hkind
    rw [hreread, htext, String.toList_append]
    cases negative with
    | false => exact .number hnumber
    | true => exact .negative hnumber

end Json

end FlowTemplate
