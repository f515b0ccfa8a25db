import FlowTemplate.Proofs.Placeholder.Source
import FlowTemplate.Proofs.Text.Surrogate
import Mathlib.Data.Nat.Digits.Lemmas
/-!
# All calls of a counter

A counter can be called any number of times. With a width `w` it answers the first `62 ^ w - 1`
calls with the numbers of these calls, written in base 62 to the width behind the head; from then on
it has nothing to answer and stays as it is. The head is cut such that head and width make up the
length, so all names have the length that was asked for.
-/

namespace FlowTemplate

namespace Base62

/-- The digits of a number are those in base 62, the most significant first. -/
theorem digits_eq (n : Nat) : digits n = (Nat.digits 62 n).reverse.map digit := by
  induction n using digits.induct with
  | case1 => simp [digits]
  | case2 n hn ih =>
    have hdigits : Nat.digits 62 n = n % 62 :: Nat.digits 62 (n / 62) :=
      Nat.digits_def' (by omega) (by omega)
    rw [digits, if_neg hn, ih, hdigits, List.reverse_cons, List.map_append, List.map_singleton]

theorem encode_eq_leftpad (n width : Nat) :
    encode n width = ((Nat.digits 62 n).reverse.map digit).leftpad width '0' := by
  rw [encode, digits_eq, List.leftpad]

/-- A number that fits a width is written to it exactly. -/
theorem length_encode {n width : Nat} (h : n < 62 ^ width) : (encode n width).length = width := by
  have hdigits : (Nat.digits 62 n).length ≤ width :=
    (Nat.digits_length_le_iff (by omega) n).mpr h
  rw [encode_eq_leftpad, List.length_leftpad, List.length_map, List.length_reverse]
  omega

theorem codes_encode (n width : Nat) :
    Text.codes (encode n width) = (encode n width).map Char.toNat := by
  apply Text.codes_of_mark_notMem
  intro hmark
  have halphanum := isAlphanum_encode n width Text.mark hmark
  exact absurd halphanum (by decide)

end Base62

namespace Counter

variable {c : Counter} {length : Int} {head : String}

/-- A counter after some number of calls, whatever it answered to them. -/
def called (c : Counter) : Nat → Counter
  | 0 => c
  | n + 1 => (c.called n).next.2

/-- The answer to one call more after some number of calls. -/
def answerAfter (c : Counter) (n : Nat) : Except Exhausted String := (c.called n).next.1

theorem next_of_le (h : c.capacity ≤ c.issued) :
    c.next = (.error ⟨c.capacityText, c.length⟩, c) := by
  rw [next, if_pos h]

/-- By induction on the calls: each call takes one name as long as there are names left. -/
theorem called_eq (c : Counter) (n : Nat) :
    c.called n = c.advanced (min n (c.capacity - c.issued)) := by
  induction n with
  | zero => rw [Nat.zero_min]; rfl
  | succ n ih =>
    have hissued (m : Nat) : (c.advanced m).issued = c.issued + m := rfl
    have hcapacity (m : Nat) : (c.advanced m).capacity = c.capacity := rfl
    rw [called, ih]
    by_cases hleft : n < c.capacity - c.issued
    · have hlt : (c.advanced n).issued < (c.advanced n).capacity := by
        rw [hissued, hcapacity]
        omega
      rw [Nat.min_eq_left (by omega), Nat.min_eq_left (by omega), next_of_lt hlt, advanced_advanced]
    · have hle : (c.advanced (c.capacity - c.issued)).capacity ≤
          (c.advanced (c.capacity - c.issued)).issued := by
        rw [hissued, hcapacity]
        omega
      rw [Nat.min_eq_right (by omega), Nat.min_eq_right (by omega), next_of_le hle]

/-- A counter that has names left answers with the next number. -/
theorem answerAfter_of_lt {n : Nat} (h : n < c.capacity - c.issued) :
    c.answerAfter n = .ok (c.name (c.issued + n + 1)) := by
  have hlt : (c.advanced n).issued < (c.advanced n).capacity := by
    change c.issued + n < c.capacity
    omega
  rw [answerAfter, called_eq, Nat.min_eq_left (by omega), next_of_lt hlt]
  rfl

/-- A counter without names answers with the number of names that there were, and stays as it is. -/
theorem answerAfter_of_le {n : Nat} (h : c.capacity - c.issued ≤ n) :
    c.answerAfter n = .error ⟨c.capacityText, c.length⟩ ∧
      c.called n = c.called (c.capacity - c.issued) := by
  have hle : (c.advanced (c.capacity - c.issued)).capacity ≤
      (c.advanced (c.capacity - c.issued)).issued := by
    change c.capacity ≤ c.issued + (c.capacity - c.issued)
    omega
  constructor
  · rw [answerAfter, called_eq, Nat.min_eq_right h, next_of_le hle]
    rfl
  · rw [called_eq, called_eq, Nat.min_eq_right h, Nat.min_self]

/-! ## The head -/

theorem isRow_fittingHead (h : Text.IsRow head) : Text.IsRow (fittingHead length head) := by
  rw [fittingHead]
  split
  · exact Text.isRow_cut _ head
  · exact h

/-- The head that fits begins the one that was asked for. -/
theorem codes_fittingHead_isPrefix (length : Int) (head : String) :
    Text.codes (fittingHead length head).toList <+: Text.codes head.toList := by
  rw [fittingHead]
  split
  · rw [Text.codes_cut]
    exact List.take_prefix _ _
  · exact List.prefix_rfl

theorem size_fittingHead_le (h : 1 ≤ length) :
    (Text.size (fittingHead length head) : Int) ≤ length := by
  rw [fittingHead]
  split
  · rw [Text.size_cut]
    omega
  · omega

/-- Head and width make up the length. -/
theorem width_create (head : String) (h : 1 ≤ length) :
    length = Text.size (fittingHead length head) + ((create length head).width.toNat : Int) := by
  have hsize : (Text.size (fittingHead length head) : Int) ≤ length := size_fittingHead_le h
  have hwidth : (create length head).width = length - Text.size (fittingHead length head) := rfl
  omega

theorem capacity_create (head : String) (h : 1 ≤ length) :
    (create length head).capacity = 62 ^ (create length head).width.toNat - 1 ∧
      (create length head).capacityText =
        toString (62 ^ (create length head).width.toNat - 1) := by
  have hsize : (Text.size (fittingHead length head) : Int) ≤ length := size_fittingHead_le h
  have hwidth : (create length head).width = length - Text.size (fittingHead length head) := rfl
  have hnonneg : ¬ (create length head).width < 0 := by omega
  have hcapacity : (create length head).capacity =
      62 ^ (create length head).width.toNat - 1 := if_neg hnonneg
  refine ⟨hcapacity, ?_⟩
  rw [capacityText, if_neg hnonneg, hcapacity]

/-- The names of the numbers that fit the width have the length that was asked for. -/
theorem size_name {n : Nat} (hlength : 1 ≤ length) (hhead : Text.IsRow head)
    (hn : n < 62 ^ (create length head).width.toNat) :
    (Text.size ((create length head).name n) : Int) = length := by
  have hdigits : Text.size (String.ofList (Base62.encode n (create length head).width.toNat)) =
      (create length head).width.toNat := by
    rw [Text.size, String.toList_ofList, Base62.codes_encode, List.length_map,
      Base62.length_encode hn]
  have hname : Text.size ((create length head).name n) =
      Text.size (fittingHead length head) + (create length head).width.toNat := by
    have hrow : Text.IsRow (create length head).head := isRow_fittingHead hhead
    rw [name, Text.size_append hrow, hdigits]
    rfl
  have hwidth := width_create head hlength
  omega

/-- The first `62 ^ width - 1` calls yield their numbers in base 62, padded to the width behind the
head that fits; so the names are as long as was asked for, and all are different. Every later call
fails and changes nothing. -/
theorem answerAfter_create (hlength : 1 ≤ length) (hhead : Text.IsRow head) :
    ∃ (fitting : String) (width : Nat), fitting = fittingHead length head ∧
      Text.codes fitting.toList <+: Text.codes head.toList ∧
      length = Text.size fitting + width ∧
      (∀ n < 62 ^ width - 1, (create length head).answerAfter n = .ok (fitting ++ String.ofList
        (((Nat.digits 62 (n + 1)).reverse.map Base62.digit).leftpad width '0'))) ∧
      (∀ n name, (create length head).answerAfter n = .ok name →
        (Text.size name : Int) = length) ∧
      (∀ m n name, (create length head).answerAfter m = .ok name →
        (create length head).answerAfter n = .ok name → m = n) ∧
      ∀ n, 62 ^ width - 1 ≤ n →
        (create length head).answerAfter n = .error ⟨toString (62 ^ width - 1), length⟩ ∧
          (create length head).called n = (create length head).called (62 ^ width - 1) := by
  obtain ⟨hcapacity, htext⟩ := capacity_create head hlength
  have hleft : (create length head).capacity - (create length head).issued =
      62 ^ (create length head).width.toNat - 1 := by
    rw [hcapacity]
    rfl
  have hanswer (n : Nat) (hn : n < 62 ^ (create length head).width.toNat - 1) :
      (create length head).answerAfter n = .ok ((create length head).name (n + 1)) := by
    rw [answerAfter_of_lt (by omega)]
    exact congrArg (fun m => Except.ok ((create length head).name (m + 1))) (Nat.zero_add n)
  have hfail (n : Nat) (hn : 62 ^ (create length head).width.toNat - 1 ≤ n) :
      (create length head).answerAfter n =
          .error ⟨toString (62 ^ (create length head).width.toNat - 1), length⟩ ∧
        (create length head).called n =
          (create length head).called (62 ^ (create length head).width.toNat - 1) := by
    have hlast := answerAfter_of_le (c := create length head) (n := n) (by omega)
    rwa [hleft, htext] at hlast
  -- a call that has an answer is one of the first, and its answer is the name of its number
  have hname (n : Nat) (name : String) (h : (create length head).answerAfter n = .ok name) :
      n < 62 ^ (create length head).width.toNat - 1 ∧
        name = (create length head).name (n + 1) := by
    by_cases hn : n < 62 ^ (create length head).width.toNat - 1
    · rw [hanswer n hn] at h
      exact ⟨hn, (Except.ok.inj h).symm⟩
    · rw [(hfail n (by omega)).1] at h
      cases h
  refine ⟨_, _, rfl, codes_fittingHead_isPrefix length head, width_create head hlength, ?_, ?_, ?_,
    hfail⟩
  · intro n hn
    rw [hanswer n hn, name, Base62.encode_eq_leftpad]
    rfl
  · intro n name h
    obtain ⟨hn, rfl⟩ := hname n name h
    exact size_name hlength hhead (by omega)
  · intro m n name hm hn
    obtain ⟨-, rfl⟩ := hname m name hm
    have heq := (hname n _ hn).2
    have hnumber := name_injective _ heq
    omega

/-- A head that is cut to one character and leaves one place, so that there are 61 names. -/
theorem answerAfter_create_short : (1 : Int) ≤ 2 ∧ Text.IsRow "ab" ∧
    (create 2 "ab").answerAfter 60 = .ok "aZ" ∧
    (create 2 "ab").answerAfter 99 = .error ⟨"61", 2⟩ := by
  have hhead : Text.IsRow "ab" := by
    rw [Text.IsRow]
    decide
  have hcut : fittingHead 2 "ab" = "a" := by decide
  obtain ⟨fitting, width, hfitting, -, hlength, hanswer, -, -, hfail⟩ :=
    answerAfter_create (show (1 : Int) ≤ 2 by omega) hhead
  rw [hcut] at hfitting
  subst hfitting
  have hone : Text.size "a" = 1 := by decide
  obtain rfl : width = 1 := by omega
  refine ⟨by omega, hhead, ?_, (hfail 99 (by omega)).1⟩
  rw [hanswer 60 (by omega)]
  have hdigits : Nat.digits 62 61 = [61] := Nat.digits_of_lt 62 61 (by omega) (by omega)
  rw [hdigits]
  decide

end Counter

end FlowTemplate
