import FlowTemplate.Placeholder.Source
import FlowTemplate.Proofs.Definition.Extraction
import Mathlib.Data.List.Nodup
/-!
# Sources do not repeat themselves

The digits of a number are read back as the number, with zeros in front or without, so numbers that
are written to one width are told apart by their digits. A counter goes up by one with each name and
never issues a name twice; it fails only when all of its names are gone. A drawn source passes over
the names it has issued before, whatever the stream of characters is, so neither source ever issues a
name twice.
-/

namespace FlowTemplate

namespace Base62

theorem digitValue?_digit : ∀ n < 62, digitValue? (digit n) = some n := by decide +kernel

theorem isAlphanum_digit : ∀ n < 62, (digit n).isAlphanum = true := by decide +kernel

theorem decode?_concat (s : List Char) (c : Char) :
    decode? (s ++ [c]) = (decode? s).bind fun n => (digitValue? c).map (n * 62 + ·) := by
  simp [decode?, List.foldlM_append]

theorem decode?_digits (n : Nat) : decode? (digits n) = some n := by
  induction n using digits.induct with
  | case1 => simp [digits, decode?]
  | case2 n hn ih =>
    have hdigit := digitValue?_digit (n % 62) (Nat.mod_lt n (by omega))
    rw [digits, if_neg hn, decode?_concat, ih, Option.bind_some, hdigit, Option.map_some]
    congr 1
    omega

/-- A number is read back from its digits, whatever width they were brought to. -/
theorem decode?_encode (n width : Nat) : decode? (encode n width) = some n := by
  have hzeros (k : Nat) (s : List Char) : decode? (List.replicate k '0' ++ s) = decode? s := by
    induction k with
    | zero => rfl
    | succ k ih =>
      have hzero : digitValue? '0' = some 0 := by decide +kernel
      rw [← ih, List.replicate_succ, List.cons_append]
      simp [decode?, List.foldlM_cons, hzero]
  rw [encode, hzeros, decode?_digits]

theorem encode_injective {m n width : Nat} (h : encode m width = encode n width) : m = n := by
  have hm := decode?_encode m width
  rw [h, decode?_encode] at hm
  exact (Option.some.inj hm).symm

theorem isAlphanum_encode (n width : Nat) : ∀ c ∈ encode n width, c.isAlphanum = true := by
  have hdigits (n : Nat) : ∀ c ∈ digits n, c.isAlphanum = true := by
    induction n using digits.induct with
    | case1 => simp [digits]
    | case2 n hn ih =>
      intro c hc
      rw [digits, if_neg hn, List.mem_append, List.mem_singleton] at hc
      rcases hc with hc | rfl
      · exact ih c hc
      · exact isAlphanum_digit _ (Nat.mod_lt n (by omega))
  intro c hc
  rcases List.mem_append.mp hc with hc | hc
  · rw [List.eq_of_mem_replicate hc]
    rfl
  · exact hdigits n c hc

theorem encode_ne_nil {n : Nat} (h : n ≠ 0) (width : Nat) : encode n width ≠ [] := by
  rw [encode, digits, if_neg h, ← List.append_assoc]
  exact List.append_ne_nil_of_right_ne_nil _ (List.cons_ne_nil _ _)

end Base62

namespace Counter

open Intrinsic

theorem name_injective (c : Counter) {m n : Nat} (h : c.name m = c.name n) : m = n := by
  have hlists := congrArg String.toList h
  rw [name, name, String.toList_append, String.toList_append] at hlists
  exact Base62.encode_injective (by simpa using hlists)

/-- A counter that has issued some more names. -/
def advanced (c : Counter) (n : Nat) : Counter := { c with issued := c.issued + n }

/-- The next names of a counter. -/
def upcoming (c : Counter) (n : Nat) : List String :=
  (List.range' (c.issued + 1) n).map c.name

theorem advanced_advanced (c : Counter) (m n : Nat) :
    (c.advanced m).advanced n = c.advanced (m + n) := by
  simp [advanced, Nat.add_assoc]

theorem upcoming_succ (c : Counter) (n : Nat) :
    c.upcoming (n + 1) = c.name (c.issued + 1) :: (c.advanced 1).upcoming n := by
  rw [upcoming, List.range'_succ, List.map_cons]
  rfl

theorem next_of_lt {c : Counter} (h : c.issued < c.capacity) :
    c.next = (.ok (c.name (c.issued + 1)), c.advanced 1) := by
  rw [next, if_neg (by omega)]
  rfl

/-- A counter issues its names in the order of their numbers while there are any. -/
theorem run_draws_next (n : Nat) (c : Counter) :
    (draws next n).run c =
      if c.issued + n ≤ max c.issued c.capacity then (.ok (c.upcoming n), c.advanced n)
      else (.error ⟨c.capacityText, c.length⟩, c.advanced (c.capacity - c.issued)) := by
  induction n generalizing c with
  | zero => rw [if_pos (by omega)]; rfl
  | succ n ih =>
    rw [run_draws_succ]
    by_cases hc : c.issued < c.capacity
    · have hissued : (c.advanced 1).issued = c.issued + 1 := rfl
      have hcapacity : (c.advanced 1).capacity = c.capacity := rfl
      simp only [next_of_lt hc, ih, hissued, hcapacity]
      by_cases hn : c.issued + (n + 1) ≤ c.capacity
      · rw [if_pos (by omega), if_pos (by omega), upcoming_succ, advanced_advanced, Nat.add_comm n]
      · rw [if_neg (by omega), if_neg (by omega), advanced_advanced,
          show 1 + (c.capacity - (c.issued + 1)) = c.capacity - c.issued by omega]
        rfl
    · have hfull : c.capacity - c.issued = 0 := by omega
      rw [next, if_pos (by omega), if_neg (by omega), hfull]
      rfl

theorem upcoming_of_issues {c c' : Counter} {names : List String}
    (h : Generator.Issues next c names c') : names = c.upcoming names.length := by
  rw [Generator.Issues, run_draws_next] at h
  split at h
  · exact (Except.ok.inj (congrArg Prod.fst h)).symm
  · cases congrArg Prod.fst h

theorem length_upcoming (c : Counter) (n : Nat) : (c.upcoming n).length = n := by
  rw [upcoming, List.length_map, List.length_range']

theorem issues_upcoming {c : Counter} {n : Nat} (h : c.issued + n ≤ c.capacity) :
    Generator.Issues next c (c.upcoming n) (c.advanced n) := by
  rw [Generator.Issues, length_upcoming, run_draws_next, if_pos (by omega)]

theorem nodup_upcoming (c : Counter) (n : Nat) : (c.upcoming n).Nodup :=
  (List.nodup_range' (s := c.issued + 1)).map fun _ _ => c.name_injective

/-- A counter never issues a name twice. -/
theorem isFresh_next (c : Counter) : Generator.IsFresh next c := by
  intro names c' h
  rw [upcoming_of_issues h]
  exact c.nodup_upcoming names.length

/-- The names of a counter are made of letters and digits when its head is. -/
theorem isAlphanum_of_issues {c c' : Counter} (hhead : ∀ x ∈ c.head.toList, x.isAlphanum = true)
    {names : List String} (h : Generator.Issues next c names c') :
    ∀ name ∈ names, ∀ x ∈ name.toList, x.isAlphanum = true := by
  rw [upcoming_of_issues h]
  intro name hname x hx
  obtain ⟨n, -, rfl⟩ := List.mem_map.mp hname
  rw [Counter.name, String.toList_append, String.toList_ofList, List.mem_append] at hx
  rcases hx with hx | hx
  · exact hhead x hx
  · exact Base62.isAlphanum_encode n _ x hx

/-- A counter issues no empty name. -/
theorem ne_nil_of_issues {c c' : Counter} {names : List String}
    (h : Generator.Issues next c names c') : ∀ name ∈ names, name.toList ≠ [] := by
  rw [upcoming_of_issues h]
  intro name hname
  obtain ⟨n, hn, rfl⟩ := List.mem_map.mp hname
  have hpos : n ≠ 0 := by
    rw [List.mem_range'_1] at hn
    omega
  rw [Counter.name, String.toList_append, String.toList_ofList]
  exact List.append_ne_nil_of_right_ne_nil _ (Base62.encode_ne_nil hpos _)

end Counter

/-! ## Sources -/

open Intrinsic

namespace Drawing

/-- The next name of a drawing is new, and from now on it counts as issued. -/
theorem spec_of_next? {stream : Nat → Char} {attempts : Nat} {d d' : Drawing} {name : String}
    (h : d.next? stream attempts = some (name, d')) :
    name ∉ d.issued ∧ d'.issued = name :: d.issued := by
  induction attempts generalizing d with
  | zero => cases h
  | succ attempts ih =>
    rw [next?] at h
    dsimp only at h
    split at h
    · have hlater := ih h
      exact hlater
    · rename_i hnew
      obtain ⟨rfl, rfl⟩ := Prod.mk.inj (Option.some.inj h)
      exact ⟨by simpa using hnew, rfl⟩

end Drawing

namespace TokenSource

/-- A counted source draws names as its counter does. -/
theorem run_draws_counted (n : Nat) (c : Counter) :
    (draws next n).run (.counted c) =
      (((draws Counter.next n).run c).1.mapError .exhausted,
        .counted ((draws Counter.next n).run c).2) :=
  run_draws_of_next TokenSource.counted TokenFailure.exhausted (fun _ => rfl) n c

theorem issues_counted {c : Counter} {names : List String} {tokens : TokenSource}
    (h : Generator.Issues next (.counted c) names tokens) :
    names = c.upcoming names.length ∧ tokens = .counted (c.advanced names.length) ∧
      c.issued + names.length ≤ max c.issued c.capacity := by
  rw [Generator.Issues, run_draws_counted, Counter.run_draws_next] at h
  by_cases hc : c.issued + names.length ≤ max c.issued c.capacity
  · rw [if_pos hc] at h
    obtain ⟨hnames, htokens⟩ := Prod.mk.inj h
    exact ⟨(Except.ok.inj hnames).symm, htokens.symm, hc⟩
  · rw [if_neg hc] at h
    cases (Prod.mk.inj h).1

/-- The names of a drawn source are different, and none of them had been issued. -/
theorem nodup_of_draws_drawn {stream : Nat → Char} {attempts n : Nat} {d : Drawing}
    {names : List String} {tokens : TokenSource}
    (h : (draws next n).run (.drawn stream attempts d) = (.ok names, tokens)) :
    names.Nodup ∧ ∀ name ∈ names, name ∉ d.issued := by
  induction n generalizing d names with
  | zero =>
    cases h
    exact ⟨List.nodup_nil, fun name hname => absurd hname List.not_mem_nil⟩
  | succ n ih =>
    rw [run_draws_succ, next] at h
    cases hnext : d.next? stream attempts with
    | none =>
      rw [hnext] at h
      cases h
    | some found =>
      obtain ⟨name, d'⟩ := found
      obtain ⟨hnew, hissued⟩ := Drawing.spec_of_next? hnext
      rw [hnext] at h
      dsimp only at h
      rcases hrest : (draws next n).run (.drawn stream attempts d') with ⟨e | rest, tokens'⟩
      · rw [hrest] at h
        cases h
      · rw [hrest] at h
        cases h
        obtain ⟨hnodup, hnotIssued⟩ := ih hrest
        rw [hissued] at hnotIssued
        constructor
        · refine List.nodup_cons.mpr ⟨fun hmem => ?_, hnodup⟩
          exact hnotIssued name hmem List.mem_cons_self
        · intro other hother
          rcases List.mem_cons.mp hother with rfl | hother
          · exact hnew
          · exact fun hmem => hnotIssued other hother (List.mem_cons_of_mem _ hmem)

/-- No source issues a name twice. -/
theorem isFresh_next (tokens : TokenSource) : Generator.IsFresh next tokens := by
  intro names tokens' h
  cases tokens with
  | counted c =>
    rw [(issues_counted h).1]
    exact c.nodup_upcoming names.length
  | drawn stream attempts d => exact (nodup_of_draws_drawn h).1

end TokenSource

end FlowTemplate
