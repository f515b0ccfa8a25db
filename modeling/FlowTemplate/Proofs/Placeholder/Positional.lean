import FlowTemplate.Proofs.Placeholder.Calls
import Mathlib.Data.List.Shortlex
/-!
# Base 62 is a positional code

The code of a number ends in the digit of its remainder by 62, and in front of it stands the code of
the quotient, which is one place narrower. So codes of one width follow each other as the numbers do:
the shorter one comes first, and of two equally long ones the one with the smaller digit where they
first differ.
-/

namespace FlowTemplate.Base62

/-- A digit stands before another one in the alphabet. -/
def Precedes (c d : Char) : Prop := alphabet.idxOf c < alphabet.idxOf d

instance : DecidableRel Precedes := fun c d =>
  inferInstanceAs (Decidable (alphabet.idxOf c < alphabet.idxOf d))

instance : Std.Asymm Precedes := ⟨fun _ _ h h' => Nat.lt_asymm h h'⟩

theorem idxOf_digit : ∀ n < 62, alphabet.idxOf (digit n) = n := by decide +kernel

theorem digit_mem_alphabet : ∀ n < 62, digit n ∈ alphabet := by decide +kernel

theorem precedes_digit {m n : Nat} (hm : m < 62) (hn : n < 62) :
    Precedes (digit m) (digit n) ↔ m < n := by
  rw [Precedes, idxOf_digit m hm, idxOf_digit n hn]

/-! ## The last place -/

/-- The code of a number that has a place is that of its quotient and the digit of its remainder. -/
theorem encode_eq_concat {n width : Nat} (h : n ≠ 0 ∨ width ≠ 0) :
    encode n width = encode (n / 62) (width - 1) ++ [digit (n % 62)] := by
  by_cases hn : n = 0
  · subst n
    obtain ⟨w, rfl⟩ := Nat.exists_eq_succ_of_ne_zero (h.resolve_left fun hne => hne rfl)
    have hzero : encode 0 (w + 1) = List.replicate (w + 1) '0' := by simp [encode, digits]
    have hquotient : encode 0 w = List.replicate w '0' := by simp [encode, digits]
    rw [hzero, Nat.succ_sub_one, Nat.zero_div, hquotient, List.replicate_succ']
    rfl
  · have hdigits : digits n = digits (n / 62) ++ [digit (n % 62)] := by rw [digits, if_neg hn]
    have hpad : width - (digits n).length = width - 1 - (digits (n / 62)).length := by
      rw [hdigits, List.length_append, List.length_singleton]
      omega
    rw [encode, encode, hpad, hdigits, List.append_assoc]

theorem encode_zero_zero : encode 0 0 = [] := by simp [encode, digits]

/-- A property of codes holds if it passes from the code of the quotient to that of the number. -/
theorem encode_induction {P : Nat → Nat → List Char → Prop} (hnil : P 0 0 [])
    (hconcat : ∀ n width, n ≠ 0 ∨ width ≠ 0 → P (n / 62) (width - 1) (encode (n / 62) (width - 1)) →
      P n width (encode (n / 62) (width - 1) ++ [digit (n % 62)])) (n width : Nat) :
    P n width (encode n width) := by
  by_cases h : n ≠ 0 ∨ width ≠ 0
  · rw [encode_eq_concat h]
    exact hconcat n width h (encode_induction hnil hconcat (n / 62) (width - 1))
  · obtain ⟨rfl, rfl⟩ : n = 0 ∧ width = 0 := by omega
    rw [encode_zero_zero]
    exact hnil
termination_by n + width
decreasing_by omega

theorem mem_alphabet_of_mem_encode (n width : Nat) : ∀ c ∈ encode n width, c ∈ alphabet := by
  refine encode_induction (P := fun _ _ s => ∀ c ∈ s, c ∈ alphabet) (by simp) ?_ n width
  intro n width _ ih c hc
  rcases List.mem_append.mp hc with hc | hc
  · exact ih c hc
  · rw [List.mem_singleton.mp hc]
    exact digit_mem_alphabet _ (Nat.mod_lt n (by omega))

/-- The places of a code count, from the last one on, for the powers of 62. -/
theorem ofDigits_encode (n width : Nat) :
    Nat.ofDigits 62 ((encode n width).reverse.map alphabet.idxOf) = n := by
  refine encode_induction
    (P := fun n _ s => Nat.ofDigits 62 (s.reverse.map alphabet.idxOf) = n) rfl ?_ n width
  intro n width _ ih
  rw [List.reverse_concat, List.map_cons, Nat.ofDigits_cons, ih,
    idxOf_digit _ (Nat.mod_lt n (by omega))]
  exact Nat.mod_add_div n 62

/-! ## The order of codes -/

section Order

variable {α : Type} {r : α → α → Prop} {s t : List α}

theorem lex_append (h : List.Lex r s t) (hlength : s.length = t.length) (u v : List α) :
    List.Lex r (s ++ u) (t ++ v) := by
  induction h with
  | nil => cases hlength
  | cons _ ih => exact .cons (ih (Nat.succ.inj hlength))
  | rel hab => exact .rel hab

/-- One more place at the end of both does not change the order. -/
theorem shortlex_concat (h : List.Shortlex r s t) (a b : α) :
    List.Shortlex r (s ++ [a]) (t ++ [b]) := by
  rcases List.shortlex_def.mp h with hshorter | ⟨hlength, hlex⟩
  · refine .of_length_lt ?_
    rw [List.length_append, List.length_append]
    exact Nat.add_lt_add_right hshorter 1
  · refine .of_lex ?_ (lex_append hlex hlength [a] [b])
    rw [List.length_append, List.length_append, hlength]
    rfl

end Order

/-- Codes of one width follow each other as their numbers do. By induction on the greater number: if
the quotients differ they decide, else the remainders do. -/
theorem shortlex_encode {m n : Nat} (h : m < n) (width : Nat) :
    List.Shortlex Precedes (encode m width) (encode n width) := by
  induction n using Nat.strongRecOn generalizing m width with
  | ind n ih =>
    rw [encode_eq_concat (n := n) (.inl (by omega))]
    by_cases hm : m ≠ 0 ∨ width ≠ 0
    · rw [encode_eq_concat hm]
      by_cases hquotient : m / 62 < n / 62
      · exact shortlex_concat (ih (n / 62) (by omega) hquotient (width - 1)) _ _
      · have hsame : m / 62 = n / 62 := by omega
        have hlast : Precedes (digit (m % 62)) (digit (n % 62)) :=
          (precedes_digit (by omega) (by omega)).mpr (by omega)
        rw [hsame]
        exact ((List.shortlex_singleton_iff _ _).mpr hlast).append_left _
    · obtain ⟨rfl, rfl⟩ : m = 0 ∧ width = 0 := by omega
      rw [encode_zero_zero]
      exact .of_length_lt (by simp)

theorem shortlex_encode_iff {m n width : Nat} :
    List.Shortlex Precedes (encode m width) (encode n width) ↔ m < n := by
  constructor
  · intro h
    rcases Nat.lt_trichotomy m n with hlt | rfl | hgt
    · exact hlt
    · exact absurd h (asymm h)
    · exact absurd h (asymm (shortlex_encode hgt width))
  · exact fun h => shortlex_encode h width

/-- The code of a number to a width is made of the 62 digits, is as long as the width or, if there
are more, as the digits of the number, and writes the number in base 62. So no two numbers have one
code, and codes come in the order of their numbers: shorter ones first, then digit by digit. -/
theorem isPositional_encode (width : Nat) : alphabet.Nodup ∧ alphabet.length = 62 ∧
    (∀ n, (∀ c ∈ encode n width, c ∈ alphabet) ∧
      (encode n width).length = max width (Nat.digits 62 n).length ∧
      Nat.ofDigits 62 ((encode n width).reverse.map alphabet.idxOf) = n) ∧
    (Function.Injective fun n => encode n width) ∧
    ∀ m n, List.Shortlex Precedes (encode m width) (encode n width) ↔ m < n := by
  refine ⟨by decide +kernel, by decide +kernel, fun n => ?_, fun m n h => encode_injective h,
    fun m n => shortlex_encode_iff⟩
  have hlength : (encode n width).length = max width (Nat.digits 62 n).length := by
    rw [encode_eq_leftpad, List.length_leftpad, List.length_map, List.length_reverse]
  exact ⟨mem_alphabet_of_mem_encode n width, hlength, ofDigits_encode n width⟩

end FlowTemplate.Base62
