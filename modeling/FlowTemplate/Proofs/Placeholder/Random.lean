import FlowTemplate.Placeholder.Random
import Mathlib.Algebra.GroupWithZero.Nat
import Mathlib.Data.List.Nodup
import Mathlib.Data.Nat.Find
/-!
# Which blocks become names

A drawing cuts its stream into blocks of the length of a name. A call passes over the blocks that are
names already, takes the first one that is none, and goes on behind it with the next call. So whatever
the stream holds, no name comes twice, and every character drawn belongs to a name or to a block that
was passed over. A call that finds no new block never ends; a bound on the blocks that are tried
changes nothing else.
-/

namespace FlowTemplate.Drawing

variable {stream : Nat → Char} {length : Nat}

/-- A block of a stream by its number. -/
def numbered (stream : Nat → Char) (length n : Nat) : String := block stream (length * n) length

theorem length_numbered (stream : Nat → Char) (length n : Nat) :
    (numbered stream length n).length = length := by
  rw [numbered, block, String.length_ofList, List.length_map, List.length_range]

/-! ## One call -/

/-- From some block on, so many blocks are among the names, and the one behind them is the name, which
is not. -/
structure IsFirstNew (stream : Nat → Char) (length start passed : Nat) (names : List String)
    (name : String) : Prop where
  known : ∀ k < passed, numbered stream length (start + k) ∈ names
  found : name = numbered stream length (start + passed)
  new : name ∉ names

theorem isFirstNew_of_mem {start passed : Nat} {names : List String} {name : String}
    (h : numbered stream length start ∈ names) :
    IsFirstNew stream length start (passed + 1) names name ↔
      IsFirstNew stream length (start + 1) passed names name := by
  have hshift (k : Nat) : start + 1 + k = start + (k + 1) := by omega
  constructor
  · intro hfirst
    refine ⟨fun k hk => ?_, ?_, hfirst.new⟩
    · rw [hshift]
      exact hfirst.known (k + 1) (by omega)
    · rw [hshift]
      exact hfirst.found
  · intro hfirst
    refine ⟨fun k hk => ?_, ?_, hfirst.new⟩
    · cases k with
      | zero => exact h
      | succ k =>
        rw [← hshift]
        exact hfirst.known k (by omega)
    · rw [← hshift]
      exact hfirst.found

theorem isFirstNew_of_notMem {start passed : Nat} {names : List String} {name : String}
    (h : numbered stream length start ∉ names) :
    IsFirstNew stream length start passed names name ↔
      passed = 0 ∧ name = numbered stream length start := by
  constructor
  · intro hfirst
    cases passed with
    | zero => exact ⟨rfl, hfirst.found⟩
    | succ passed => exact absurd (hfirst.known 0 (by omega)) h
  · rintro ⟨rfl, rfl⟩
    exact ⟨fun k hk => absurd hk (Nat.not_lt_zero k), rfl, h⟩

/-- A drawing that has used up some number of blocks. -/
def after (length blocks : Nat) (issued : List String) : Drawing :=
  { length, issued, drawn := length * blocks }

theorem next?_after_succ (stream : Nat → Char) (length blocks attempts : Nat)
    (issued : List String) :
    (after length blocks issued).next? stream (attempts + 1) =
      if numbered stream length blocks ∈ issued then
        (after length (blocks + 1) issued).next? stream attempts
      else some (numbered stream length blocks,
        after length (blocks + 1) (numbered stream length blocks :: issued)) := by
  have hdrawn : length * blocks + length = length * (blocks + 1) := by rw [Nat.mul_succ]
  rw [next?]
  simp only [after, hdrawn, List.contains_iff_mem]
  rfl

/-- A call answers with the first new block, if that is among those it tries. -/
theorem next?_after_eq_some_iff {blocks attempts : Nat} {issued : List String} {name : String}
    {d : Drawing} : (after length blocks issued).next? stream attempts = some (name, d) ↔
      ∃ passed < attempts, IsFirstNew stream length blocks passed issued name ∧
        d = after length (blocks + passed + 1) (name :: issued) := by
  induction attempts generalizing blocks with
  | zero => simp [next?]
  | succ attempts ih =>
    rw [next?_after_succ]
    by_cases hknown : numbered stream length blocks ∈ issued
    · have hshift (passed : Nat) : blocks + 1 + passed + 1 = blocks + (passed + 1) + 1 := by omega
      rw [if_pos hknown, ih]
      constructor
      · rintro ⟨passed, hpassed, hfirst, rfl⟩
        exact ⟨passed + 1, by omega, (isFirstNew_of_mem hknown).mpr hfirst, by rw [hshift]⟩
      · rintro ⟨passed, hpassed, hfirst, rfl⟩
        cases passed with
        | zero => exact absurd (hfirst.found ▸ hknown) hfirst.new
        | succ passed =>
          exact ⟨passed, by omega, (isFirstNew_of_mem hknown).mp hfirst, by rw [hshift]⟩
    · rw [if_neg hknown]
      simp only [isFirstNew_of_notMem hknown]
      constructor
      · intro h
        cases h
        exact ⟨0, by omega, ⟨rfl, rfl⟩, rfl⟩
      · rintro ⟨_, -, ⟨rfl, rfl⟩, rfl⟩
        rfl

/-- Some number of attempts is enough exactly if a new block is to come. -/
theorem exists_next?_after_iff {blocks : Nat} {issued : List String} :
    (∃ attempts name d, (after length blocks issued).next? stream attempts = some (name, d)) ↔
      ∃ k, numbered stream length (blocks + k) ∉ issued := by
  constructor
  · rintro ⟨attempts, name, d, h⟩
    obtain ⟨passed, -, hfirst, -⟩ := next?_after_eq_some_iff.mp h
    exact ⟨passed, hfirst.found ▸ hfirst.new⟩
  · intro h
    have hleast (k : Nat) (hk : k < Nat.find h) : numbered stream length (blocks + k) ∈ issued :=
      Classical.not_not.mp (Nat.find_min h hk)
    exact ⟨Nat.find h + 1, _, _, next?_after_eq_some_iff.mpr
      ⟨Nat.find h, Nat.lt_succ_self _, ⟨hleast, rfl, Nat.find_spec h⟩, rfl⟩⟩

/-! ## Calls one after the other -/

/-- What calls one after the other have answered, and what the drawing is after them. Each call may
try as many blocks as it needs. -/
inductive Answers (stream : Nat → Char) (length : Nat) : List String → Drawing → Prop
  | none : Answers stream length [] (create length)
  | next {names : List String} {name : String} {d d' : Drawing} {attempts : Nat}
      (before : Answers stream length names d) (call : d.next? stream attempts = some (name, d')) :
      Answers stream length (names ++ [name]) d'

/-- How many blocks each call has passed over: it began behind the blocks of the calls before it and
those that they passed over, and took the first block that was not among their names. -/
structure Accounts (stream : Nat → Char) (length : Nat) (names : List String)
    (passed : List Nat) : Prop where
  calls : passed.length = names.length
  firstNew : ∀ i (hi : i < names.length) (hp : i < passed.length),
    IsFirstNew stream length (i + (passed.take i).sum) passed[i] (names.take i) names[i]

/-- One call more is accounted for where the calls before it stopped. -/
theorem Accounts.concat {names : List String} {passed : List Nat} {name : String} {n : Nat}
    (h : Accounts stream length names passed)
    (hfirst : IsFirstNew stream length (names.length + passed.sum) n names name) :
    Accounts stream length (names ++ [name]) (passed ++ [n]) := by
  refine ⟨by simp [h.calls], fun i hi hp => ?_⟩
  rw [List.length_append, List.length_singleton] at hi
  rcases Nat.lt_succ_iff_lt_or_eq.mp hi with hbefore | rfl
  · have hcalls : i < passed.length := h.calls ▸ hbefore
    rw [List.getElem_append_left hbefore, List.getElem_append_left hcalls,
      List.take_append_of_le_length (Nat.le_of_lt hbefore),
      List.take_append_of_le_length (Nat.le_of_lt hcalls)]
    exact h.firstNew i hbefore hcalls
  · have hpassed : (passed ++ [n]).take names.length = passed := by rw [← h.calls, List.take_left]
    have hn : (passed ++ [n])[names.length] = n := by simp [← h.calls]
    rw [hpassed, hn, List.take_left, List.getElem_concat_length rfl]
    exact hfirst

theorem Accounts.nodup {names : List String} {passed : List Nat}
    (h : Accounts stream length names passed) : names.Nodup := by
  rw [List.nodup_iff_injective_getElem]
  have hlater (i j : Nat) (hij : i < j) (hj : j < names.length) : names[i] ≠ names[j] := by
    intro heq
    apply (h.firstNew j hj (h.calls ▸ hj)).new
    rw [← heq, List.mem_take_iff_getElem]
    exact ⟨i, by omega, rfl⟩
  rintro ⟨i, hi⟩ ⟨j, hj⟩ heq
  rcases Nat.lt_trichotomy i j with hij | hij | hij
  · exact absurd heq (hlater i j hij hj)
  · exact Fin.ext hij
  · exact absurd heq.symm (hlater j i hij hi)

/-- After some calls the names are those issued, and the characters drawn are those of the blocks that
became names and of the blocks that were passed over. -/
theorem Answers.exists_accounts {names : List String} {d : Drawing}
    (h : Answers stream length names d) :
    ∃ passed, Accounts stream length names passed ∧
      d = after length (names.length + passed.sum) names.reverse := by
  induction h with
  | none => exact ⟨[], ⟨rfl, fun i hi => absurd hi (Nat.not_lt_zero i)⟩, rfl⟩
  | @next names name d d' attempts _ call ih =>
    obtain ⟨passed, haccounts, rfl⟩ := ih
    obtain ⟨n, -, hfirst, rfl⟩ := next?_after_eq_some_iff.mp call
    have hfirst' : IsFirstNew stream length (names.length + passed.sum) n names name :=
      ⟨fun k hk => List.mem_reverse.mp (hfirst.known k hk), hfirst.found,
        mt List.mem_reverse.mpr hfirst.new⟩
    refine ⟨passed ++ [n], haccounts.concat hfirst', ?_⟩
    have hblocks : names.length + passed.sum + n + 1 =
        (names ++ [name]).length + (passed ++ [n]).sum := by
      simp
      omega
    rw [hblocks, List.reverse_append, List.reverse_singleton, List.singleton_append]

/-- Whatever the stream holds, each call takes the first block behind the call before it that was not
returned yet, and passes over blocks that were. So the names are different and of the length asked
for, they are exactly what counts as issued, and what was drawn are the blocks of the calls and those
passed over. A further call has an answer exactly if a new block is to come. -/
theorem accounts_of_answers {names : List String} {d : Drawing}
    (h : Answers stream length names d) :
    ∃ passed : List Nat, Accounts stream length names passed ∧ names.Nodup ∧
      (∀ name ∈ names, name.length = length) ∧ (∀ name, name ∈ d.issued ↔ name ∈ names) ∧
      d.drawn = length * (names.length + passed.sum) ∧
      ((∃ attempts name d', d.next? stream attempts = some (name, d')) ↔
        ∃ k, numbered stream length (names.length + passed.sum + k) ∉ names) := by
  obtain ⟨passed, haccounts, rfl⟩ := h.exists_accounts
  refine ⟨passed, haccounts, haccounts.nodup, fun name hname => ?_, fun name => List.mem_reverse, rfl,
    ?_⟩
  · obtain ⟨i, hi, rfl⟩ := List.getElem_of_mem hname
    rw [(haccounts.firstNew i hi (haccounts.calls ▸ hi)).found]
    exact length_numbered stream length _
  · rw [exists_next?_after_iff]
    simp only [List.mem_reverse]

/-- A block that comes twice in a row is passed over once. -/
theorem accounts_of_answers_repeated :
    let stream (i : Nat) : Char := "aaaaaaaabbbb".toList.getD i 'x'
    let d : Drawing := ⟨4, ["bbbb", "aaaa"], 12⟩
    Answers stream 4 ["aaaa", "bbbb"] d ∧
      ∃ passed : List Nat, Accounts stream 4 ["aaaa", "bbbb"] passed ∧ passed.sum = 1 := by
  intro stream d
  have hfirst : (create 4).next? stream 1 = some ("aaaa", ⟨4, ["aaaa"], 4⟩) := by rfl
  have hsecond : Drawing.next? stream 2 ⟨4, ["aaaa"], 4⟩ = some ("bbbb", d) := by rfl
  have hanswers : Answers stream 4 ["aaaa", "bbbb"] d := .next (.next .none hfirst) hsecond
  obtain ⟨passed, haccounts, -, -, -, hdrawn, -⟩ := accounts_of_answers hanswers
  have htwelve : 12 = 4 * (2 + passed.sum) := hdrawn
  exact ⟨hanswers, passed, haccounts, by omega⟩

end FlowTemplate.Drawing
