import FlowTemplate.Proofs.Placeholder.Calls
/-!
# How many names a length offers

A counter offers one name for each code of its width but that of zero. As long as the head does not
fit into the length it is cut, and three places are left behind it, however long it is. From the first
length on that takes the whole head, the places are what the head leaves: one, and one more with every
step. So a longer name does not always mean more names. All lengths in which the head is cut offer the
same number of them, the two lengths after these far fewer, the third as many again, and only then
there are more.
-/

namespace FlowTemplate.Counter

variable {length longer : Int} {head : String}

/-- So many calls are answered with a name, and the next one is told that there is none. -/
def Offers (c : Counter) (n : Nat) : Prop :=
  (∀ m < n, ∃ name, c.answerAfter m = .ok name) ∧ ∃ e, c.answerAfter n = .error e

/-- A counter offers one number of names only. -/
theorem offers_iff {c : Counter} {n : Nat} : c.Offers n ↔ n = c.capacity - c.issued := by
  constructor
  · rintro ⟨hnames, e, hfail⟩
    rcases Nat.lt_trichotomy n (c.capacity - c.issued) with hlt | heq | hgt
    · rw [answerAfter_of_lt hlt] at hfail
      cases hfail
    · exact heq
    · obtain ⟨name, hname⟩ := hnames _ hgt
      rw [(answerAfter_of_le (Nat.le_refl _)).1] at hname
      cases hname
  · rintro rfl
    exact ⟨fun m hm => ⟨_, answerAfter_of_lt hm⟩, _, (answerAfter_of_le (Nat.le_refl _)).1⟩

/-- The places behind a head of some size: three if it has to be cut, else what it leaves. -/
def places (size : Nat) (length : Int) : Nat :=
  if length ≤ size then 3 else (length - size).toNat

theorem width_create_eq (head : String) (h : 4 ≤ length) :
    (create length head).width = places (Text.size head) length := by
  have hwidth : (create length head).width = length - Text.size (fittingHead length head) := rfl
  rw [hwidth, fittingHead, places]
  split
  · rw [Text.size_cut]
    omega
  · omega

theorem capacity_create_eq (head : String) (h : 4 ≤ length) :
    (create length head).capacity = 62 ^ places (Text.size head) length - 1 := by
  rw [(capacity_create head (by omega)).1, width_create_eq head h, Int.toNat_natCast]

/-- A counter that has issued nothing offers all its names, and then says how many they were. -/
theorem offers_create_places (head : String) (h : 4 ≤ length) :
    (create length head).Offers (62 ^ places (Text.size head) length - 1) ∧
      (create length head).answerAfter (62 ^ places (Text.size head) length - 1) =
        .error ⟨toString (62 ^ places (Text.size head) length - 1), length⟩ := by
  have hcapacity := capacity_create_eq head h
  have htext := (capacity_create head (show 1 ≤ length by omega)).2
  rw [width_create_eq head h, Int.toNat_natCast] at htext
  have hleft : (create length head).capacity - (create length head).issued =
      62 ^ places (Text.size head) length - 1 := by
    rw [hcapacity]
    rfl
  refine ⟨offers_iff.mpr hleft.symm, ?_⟩
  rw [(answerAfter_of_le (Nat.le_of_eq hleft)).1, htext]
  rfl

/-! ## Lengths compared -/

theorem places_le_iff {size : Nat} (hlonger : length < longer) :
    places size length ≤ places size longer ↔
      longer ≤ size ∨ size < length ∨ size + 3 ≤ longer := by
  rw [places, places]
  split <;> split <;> omega

theorem places_lt_iff {size : Nat} (hlonger : length < longer) :
    places size length < places size longer ↔ size < length ∨ size + 3 < longer := by
  rw [places, places]
  split <;> split <;> omega

theorem codes_le_iff (a b : Nat) : 62 ^ a - 1 ≤ 62 ^ b - 1 ↔ a ≤ b := by
  have hb : 0 < 62 ^ b := Nat.pow_pos (by omega)
  rw [Nat.sub_le_sub_iff_right hb, Nat.pow_le_pow_iff_right (by omega)]

/-- A longer name means at least as many names unless the whole head has just come to fit, and it
means more of them once there are more than three places. Until then it is no help, and it can be
harm, that a counter without names asks for a longer one. -/
theorem offers_create (hleast : 4 ≤ length) (hlonger : length < longer) :
    ∃ n m, (create length defaultHead).Offers n ∧ (create longer defaultHead).Offers m ∧
      n = 62 ^ places 7 length - 1 ∧ m = 62 ^ places 7 longer - 1 ∧
      (∃ e, (create length defaultHead).answerAfter n = .error e ∧
        e.message = s!"Placeholder space exhausted after {n} names; "
          ++ s!"raise PLACEHOLDER_LENGTH above {length}") ∧
      (n ≤ m ↔ longer ≤ 7 ∨ 7 < length ∨ 10 ≤ longer) ∧
      (n < m ↔ 7 < length ∨ 10 < longer) := by
  have hsize : Text.size defaultHead = 7 := by decide
  obtain ⟨hoffers, hanswer⟩ := offers_create_places defaultHead hleast
  obtain ⟨hmore, -⟩ := offers_create_places defaultHead (show 4 ≤ longer by omega)
  rw [hsize] at hoffers hanswer hmore
  refine ⟨_, _, hoffers, hmore, rfl, rfl, ⟨_, hanswer, rfl⟩, ?_, ?_⟩
  · exact (codes_le_iff _ _).trans (places_le_iff hlonger)
  · rw [← Nat.not_le, codes_le_iff, Nat.not_le]
    exact places_lt_iff hlonger

/-- With eight characters the whole head fits, and one place is left where seven characters left
three. -/
theorem offers_create_whole_head : (4 : Int) ≤ 7 ∧ (7 : Int) < 8 ∧
    (create 7 defaultHead).Offers 238327 ∧ (create 8 defaultHead).Offers 61 := by
  obtain ⟨n, m, hn, hm, rfl, rfl, -⟩ :=
    offers_create (show (4 : Int) ≤ 7 by omega) (show (7 : Int) < 8 by omega)
  exact ⟨by omega, by omega, hn, hm⟩

/-- It is not so that a longer name always means at least as many names. -/
theorem not_offers_more_when_longer :
    ¬ ∀ (length longer : Int) (n m : Nat), 4 ≤ length → length < longer →
      (create length defaultHead).Offers n → (create longer defaultHead).Offers m → n ≤ m := by
  intro h
  have hsize : Text.size defaultHead = 7 := by decide
  have hseven := (offers_create_places defaultHead (show (4 : Int) ≤ 7 by omega)).1
  have height := (offers_create_places defaultHead (show (4 : Int) ≤ 8 by omega)).1
  rw [hsize] at hseven height
  exact absurd (h 7 8 _ _ (by omega) (by omega) hseven height) (by decide)

end FlowTemplate.Counter
