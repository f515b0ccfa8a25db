import FlowTemplate.Pattern.Search
/-!
# What patterns take

A pattern of sets, repetitions of sets and texts takes words of a language, wherever it stands, and
leaves the rest to what follows: a match goes back to shorter words until the rest fits. A search
for a pattern that holds on to both ends of a text asks whether the text is such a word, with or
without a line feed behind it.
-/

namespace FlowTemplate.Pattern

/-- Anywhere in a text the pattern takes the words of a language, as long as what follows accepts
the place behind the word. -/
def Takes (p : Pattern) (language : List Nat → Prop) : Prop :=
  ∀ (before rest : List Nat) (next : Rest) (groups : List (Nat × Nat × Nat)),
    (p.accepts (before ++ rest).toArray next ⟨before.length, groups⟩).isSome = true ↔
      ∃ word tail, rest = word ++ tail ∧ language word ∧
        (next ⟨(before ++ word).length, groups⟩).isSome = true

theorem getElem?_toArray_append (before rest : List Nat) :
    (before ++ rest).toArray[before.length]? = rest.head? := by
  rw [List.getElem?_toArray, List.getElem?_append_right (Nat.le_refl _), Nat.sub_self,
    List.head?_eq_getElem?]

/-- One code point of a set. -/
theorem takes_one (cls : CharSet) : Takes (.one cls) fun word =>
    ∃ n, word = [n] ∧ cls.contains n = true := by
  intro before rest next groups
  rw [accepts, getElem?_toArray_append]
  cases rest with
  | nil => simp
  | cons n rest =>
    dsimp only [List.head?_cons]
    by_cases hn : cls.contains n = true
    · rw [if_pos hn]
      constructor
      · intro h
        exact ⟨[n], rest, rfl, ⟨n, rfl, hn⟩, by rwa [List.length_append]⟩
      · rintro ⟨word, tail, hrest, ⟨m, rfl, -⟩, h⟩
        rwa [List.length_append] at h
    · rw [if_neg hn]
      refine iff_of_false (by simp) ?_
      rintro ⟨word, tail, hrest, ⟨m, rfl, hm⟩, -⟩
      obtain ⟨rfl, -⟩ := List.cons.inj hrest
      exact hn hm

theorem Takes.seq {p q : Pattern} {language more : List Nat → Prop} (hp : p.Takes language)
    (hq : q.Takes more) : Takes (.seq p q) fun word =>
      ∃ first second, word = first ++ second ∧ language first ∧ more second := by
  intro before rest next groups
  rw [accepts, hp before rest _ groups]
  constructor
  · rintro ⟨first, behind, rfl, hfirst, hnext⟩
    rw [← List.append_assoc, hq (before ++ first) behind next groups] at hnext
    obtain ⟨second, tail, rfl, hsecond, hnext⟩ := hnext
    exact ⟨first ++ second, tail, by simp, ⟨first, second, rfl, hfirst, hsecond⟩,
      by rwa [← List.append_assoc]⟩
  · rintro ⟨word, tail, rfl, ⟨first, second, rfl, hfirst, hsecond⟩, hnext⟩
    refine ⟨first, second ++ tail, by simp, hfirst, ?_⟩
    rw [List.append_assoc, ← List.append_assoc before,
      hq (before ++ first) (second ++ tail) next groups]
    exact ⟨second, tail, rfl, hsecond, by rwa [List.append_assoc]⟩

theorem Takes.congr {p : Pattern} {language other : List Nat → Prop} (h : p.Takes language)
    (hword : ∀ word, language word ↔ other word) : p.Takes other := by
  intro before rest next groups
  rw [h before rest next groups]
  simp only [hword]

/-- A character, which is not the mark of a half, as a code point of its own. -/
theorem takes_literal (c : Char) : Takes (.literal c) fun word => word = [c.toNat] :=
  (takes_one (.single c)).congr fun word => by
    have hcontains (n : Nat) : (CharSet.single c).contains n = true ↔ n = c.toNat := by
      simp [CharSet.single, CharSet.contains, Member.holds, Folding.variants]
      omega
    simp only [hcontains, exists_eq_right]

theorem takes_empty : Takes .empty fun word => word = [] := by
  intro before rest next groups
  rw [accepts]
  constructor
  · intro h
    exact ⟨[], rest, rfl, rfl, by rwa [List.append_nil]⟩
  · rintro ⟨word, tail, -, rfl, h⟩
    rwa [List.append_nil] at h

theorem takes_text (s : String) : Takes (text s) fun word => word = s.toList.map Char.toNat := by
  rw [text]
  induction s.toList with
  | nil => exact takes_empty
  | cons c rest ih => exact ((takes_literal c).seq ih).congr fun word => by simp

/-! ## Repetition -/

/-- A repetition of a set can end behind every word of the set, down to the empty one. Each round
makes progress, so the place where the last one began is never the present one. -/
theorem isSome_repeated_iff (cls : CharSet) (next : Rest) (groups : List (Nat × Nat × Nat))
    (before rest : List Nat) {fuel : Nat} {last : Option Nat} (hfuel : rest.length < fuel)
    (hlast : last ≠ some before.length) :
    (repeated (accepts (before ++ rest).toArray (.one cls)) false next fuel 0 none last
        ⟨before.length, groups⟩).isSome = true ↔
      ∃ word tail, rest = word ++ tail ∧ (∀ n ∈ word, cls.contains n = true) ∧
        (next ⟨(before ++ word).length, groups⟩).isSome = true := by
  induction fuel generalizing before rest last with
  | zero => cases hfuel
  | succ fuel ih =>
    have hround (n : Nat) (behind : List Nat) (hbehind : behind.length < fuel) :=
      ih (before ++ [n]) behind hbehind (show some before.length ≠ _ by simp)
    simp only [List.append_assoc, List.singleton_append] at hround
    have hstep := takes_one cls before rest (repeated (accepts (before ++ rest).toArray (.one cls))
      false next fuel 0 none (some before.length)) groups
    rw [repeated, if_neg (by simpa using hlast), if_neg (by decide)]
    simp only [Option.orElse_eq_orElse, Option.orElse_eq_or, Option.isSome_or, Bool.or_eq_true,
      Option.map_none, hstep]
    constructor
    · rintro (⟨_, behind, rfl, ⟨n, rfl, hn⟩, hagain⟩ | hnext)
      · rw [List.singleton_append, hround n behind (Nat.lt_of_succ_lt_succ hfuel)] at hagain
        obtain ⟨word, tail, rfl, hword, hnext⟩ := hagain
        exact ⟨n :: word, tail, rfl, List.forall_mem_cons.mpr ⟨hn, hword⟩, hnext⟩
      · exact ⟨[], rest, rfl, by simp, by rwa [List.append_nil]⟩
    · rintro ⟨word, tail, rfl, hword, hnext⟩
      cases word with
      | nil => exact .inr (by rwa [List.append_nil] at hnext)
      | cons n word =>
        obtain ⟨hn, hword⟩ := List.forall_mem_cons.mp hword
        refine .inl ⟨[n], word ++ tail, rfl, ⟨n, rfl, hn⟩, ?_⟩
        rw [List.cons_append, hround n (word ++ tail) (Nat.lt_of_succ_lt_succ hfuel)]
        exact ⟨word, tail, rfl, hword, hnext⟩

/-- One or more code points of a set. -/
theorem takes_plus (cls : CharSet) : Takes (plus (.one cls)) fun word =>
    word ≠ [] ∧ ∀ n ∈ word, cls.contains n = true := by
  intro before rest next groups
  have hstep := takes_one cls before rest (repeated (accepts (before ++ rest).toArray (.one cls))
    false next ((before ++ rest).length + 2) 0 none none) groups
  have hround (n : Nat) (behind : List Nat) :=
    isSome_repeated_iff cls next groups (before ++ [n]) behind
      (show behind.length < (before ++ n :: behind).length + 2 by simp; omega)
      (Option.some_ne_none _).symm
  simp only [List.append_assoc, List.singleton_append] at hround
  rw [plus, accepts]
  dsimp only
  rw [List.size_toArray, Nat.add_comm 1, Nat.add_right_comm, repeated, Option.map_none, hstep]
  constructor
  · rintro ⟨_, behind, rfl, ⟨n, rfl, hn⟩, hagain⟩
    rw [List.singleton_append, hround] at hagain
    obtain ⟨word, tail, rfl, hword, hnext⟩ := hagain
    exact ⟨n :: word, tail, rfl, ⟨List.cons_ne_nil n word,
      List.forall_mem_cons.mpr ⟨hn, hword⟩⟩, hnext⟩
  · rintro ⟨word, tail, rfl, ⟨hne, hword⟩, hnext⟩
    obtain ⟨n, word, rfl⟩ := List.exists_cons_of_ne_nil hne
    obtain ⟨hn, hword⟩ := List.forall_mem_cons.mp hword
    refine ⟨[n], word ++ tail, rfl, ⟨n, rfl, hn⟩, ?_⟩
    rw [List.cons_append, hround]
    exact ⟨word, tail, rfl, hword, hnext⟩

/-! ## Whole texts -/

/-- What may stand behind a match that holds on to the end of a text. -/
def EndsText (tail : List Nat) : Prop := tail = [] ∨ tail = ['\n'.toNat]

theorem holds_stop_iff (before tail : List Nat) :
    Anchor.holds (before ++ tail).toArray before.length (.stop false) = true ↔ EndsText tail := by
  rw [Anchor.holds, getElem?_toArray_append]
  match tail with
  | [] => simp [EndsText]
  | [n] => simp [EndsText]
  | n :: m :: rest => simp [EndsText]

/-- A pattern that holds on to the start is found only there. -/
theorem search_start (p : Pattern) (codes : List Nat) :
    (Pattern.seq (.anchor (.start false)) p).search codes =
      (p.accepts codes.toArray some ⟨0, []⟩).isSome := by
  have hplace (place : Nat) : ((Pattern.seq (.anchor (.start false)) p).accepts codes.toArray some
      ⟨place, []⟩).isSome = (place == 0 && (p.accepts codes.toArray some ⟨0, []⟩).isSome) := by
    rw [accepts, accepts, Anchor.holds, Bool.false_and, Bool.or_false]
    cases place <;> simp
  rw [search]
  simp only [hplace, List.range_succ_eq_map, List.any_cons, List.any_map]
  simp

theorem Takes.search_iff {p : Pattern} {language : List Nat → Prop} (h : p.Takes language)
    (codes : List Nat) : (Pattern.seq (.anchor (.start false)) p).search codes = true ↔
      ∃ word tail, codes = word ++ tail ∧ language word := by
  rw [search_start]
  refine (h [] codes some []).trans ?_
  simp

/-- Anywhere in a text the pattern takes a word of a language, and with it all up to the end. -/
def TakesAll (p : Pattern) (language : List Nat → Prop) : Prop :=
  ∀ (before rest : List Nat) (groups : List (Nat × Nat × Nat)),
    (p.accepts (before ++ rest).toArray some ⟨before.length, groups⟩).isSome = true ↔
      ∃ word tail, rest = word ++ tail ∧ language word ∧ EndsText tail

theorem takesAll_stop : TakesAll (.anchor (.stop false)) fun word => word = [] := by
  intro before rest groups
  rw [accepts]
  have hstop := holds_stop_iff before rest
  split
  · rename_i h
    exact iff_of_true rfl ⟨[], rest, rfl, rfl, hstop.mp h⟩
  · rename_i h
    refine iff_of_false (by simp) ?_
    rintro ⟨word, tail, rfl, rfl, hend⟩
    exact h (hstop.mpr hend)

theorem Takes.seqAll {p q : Pattern} {language more : List Nat → Prop} (hp : p.Takes language)
    (hq : q.TakesAll more) : TakesAll (.seq p q) fun word =>
      ∃ first second, word = first ++ second ∧ language first ∧ more second := by
  intro before rest groups
  rw [accepts, hp before rest _ groups]
  constructor
  · rintro ⟨first, behind, rfl, hfirst, hnext⟩
    rw [← List.append_assoc, hq (before ++ first) behind groups] at hnext
    obtain ⟨second, tail, rfl, hsecond, hend⟩ := hnext
    exact ⟨first ++ second, tail, by simp, ⟨first, second, rfl, hfirst, hsecond⟩, hend⟩
  · rintro ⟨word, tail, rfl, ⟨first, second, rfl, hfirst, hsecond⟩, hend⟩
    refine ⟨first, second ++ tail, by simp, hfirst, ?_⟩
    rw [List.append_assoc, ← List.append_assoc before,
      hq (before ++ first) (second ++ tail) groups]
    exact ⟨second, tail, rfl, hsecond, hend⟩

theorem TakesAll.search_iff {p : Pattern} {language : List Nat → Prop} (h : p.TakesAll language)
    (codes : List Nat) : (Pattern.seq (.anchor (.start false)) p).search codes = true ↔
      ∃ word tail, codes = word ++ tail ∧ language word ∧ EndsText tail := by
  rw [search_start]
  exact h [] codes []

end FlowTemplate.Pattern
