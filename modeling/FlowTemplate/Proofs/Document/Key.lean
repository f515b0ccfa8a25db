import FlowTemplate.Proofs.Document.Plain
import FlowTemplate.Proofs.Number.Whole
import Mathlib.Data.Rat.Cast.Defs
import Mathlib.Tactic.NormNum
/-!
# When two keys are one

Numbers are one key when they are equal as rational numbers, times with an offset when they are one
instant, and everything else when it is written alike. Being one key is therefore symmetric and
transitive, and what is looked up under a key is looked up under every key that is the same. Only
what is no number is not the same key as itself.
-/

namespace FlowTemplate

/-- What a key stands for among the keys of a mapping. -/
inductive KeyClass where
  | number (x : Rat)
  | infinite (negative : Bool)
  | instant (i : Int)
  | other (a : Atom)

namespace Quantity

def class? : Quantity → Option KeyClass
  | .nan => none
  | .infinite negative => some (.infinite negative)
  | .finite m q => some (.number (m * 2 ^ q))

/-- Significands over one exponent are equal when the numbers are. -/
theorem align_eq_iff (m p n q : Int) :
    (align m p n q).1 = (align m p n q).2 ↔ (m : Rat) * 2 ^ p = n * 2 ^ q := by
  have hscale (k low e : Int) (h : low ≤ e) :
      ((k * twoTo (e - low).toNat : Int) : Rat) * 2 ^ low = k * 2 ^ e := by
    have htwo : ((twoTo (e - low).toNat : Nat) : Rat) = 2 ^ (e - low) := by
      rw [show twoTo (e - low).toNat = 2 ^ (e - low).toNat from rfl, Nat.cast_pow,
        ← zpow_natCast, Int.toNat_of_nonneg (by omega)]
      rfl
    rw [Int.cast_mul, Int.cast_natCast, htwo, mul_assoc, ← zpow_add₀ (by norm_num),
      Int.sub_add_cancel]
  have hleft := hscale m (min p q) p (Int.min_le_left p q)
  have hright := hscale n (min p q) q (Int.min_le_right p q)
  have hne : (2 : Rat) ^ min p q ≠ 0 := zpow_ne_zero _ (by norm_num)
  rw [← hleft, ← hright, mul_left_inj' hne, Int.cast_inj]
  rfl

theorem eq_iff (x y : Quantity) :
    x.eq y = true ↔ ∃ c, x.class? = some c ∧ y.class? = some c := by
  have hfinite (m p n q : Int) : (finite m p).eq (finite n q) =
      decide ((align m p n q).1 = (align m p n q).2) := rfl
  cases x with
  | nan => simp [Quantity.eq, class?]
  | infinite s => cases y <;> simp [Quantity.eq, class?, @eq_comm _ s]
  | finite m p =>
    cases y with
    | finite n q => simp [hfinite, class?, align_eq_iff, @eq_comm Rat]
    | _ => simp [Quantity.eq, class?]

end Quantity

namespace Timestamp

/-- The instant of a time with an offset. -/
def instant? (t : Timestamp) : Option Int := t.clock.bind fun c => c.offset.map (t.instant c)

theorem sameTime_eq (t u : Timestamp) : t.sameTime u = match t.instant?, u.instant? with
    | some a, some b => a == b
    | none, none => t == u
    | _, _ => false := rfl

end Timestamp

namespace Atom

/-- The class of a key that counts as no number. -/
def ownClass : Atom → KeyClass
  | .time t => match t.instant? with
    | some i => .instant i
    | none => .other (.time t)
  | a => .other a

def class? (a : Atom) : Option KeyClass :=
  match a.quantity? with
  | some x => x.class?
  | none => some a.ownClass

theorem class?_ne_ownClass (x : Quantity) (a : Atom) : x.class? ≠ some a.ownClass := by
  cases x <;> cases a <;> simp [Quantity.class?, ownClass] <;> split <;> simp

theorem ownClass_inj (a b : Atom) : (match a, b with
    | .time t, .time u => t.sameTime u
    | a, b => a == b) = true ↔ a.ownClass = b.ownClass := by
  have hother {a : Atom} (ha : ∀ t, a ≠ .time t) : a.ownClass = .other a := by
    cases a <;> first | rfl | exact absurd rfl (ha _)
  have hne (t : Timestamp) {a : Atom} (ha : ∀ t, a ≠ .time t) : ownClass (.time t) ≠ .other a := by
    rw [ownClass]
    split
    · exact KeyClass.noConfusion
    · exact fun h => ha t (KeyClass.other.inj h).symm
  split
  · rename_i t u
    rw [Timestamp.sameTime_eq, ownClass, ownClass]
    cases ht : t.instant? <;> cases hu : u.instant? <;> simp
  · rename_i hno
    rw [beq_iff_eq]
    refine ⟨congrArg ownClass, fun h => ?_⟩
    by_cases ha : ∀ t, a ≠ .time t
    · by_cases hb : ∀ t, b ≠ .time t
      · rw [hother ha, hother hb] at h
        exact KeyClass.other.inj h
      · obtain ⟨u, rfl⟩ : ∃ u, b = .time u := by simpa using hb
        rw [hother ha] at h
        exact absurd h.symm (hne u ha)
    · obtain ⟨t, rfl⟩ : ∃ t, a = .time t := by simpa using ha
      have hb : ∀ u, b ≠ .time u := fun u hu => hno t u rfl hu
      rw [hother hb] at h
      exact absurd h (hne t hb)

/-- Two atoms are one key exactly if they have one class. -/
theorem sameKey_iff (a b : Atom) :
    a.sameKey b = true ↔ ∃ c, a.class? = some c ∧ b.class? = some c := by
  unfold sameKey class?
  cases ha : a.quantity? with
  | some x =>
    cases hb : b.quantity? with
    | some y => exact Quantity.eq_iff x y
    | none => simp [class?_ne_ownClass]
  | none =>
    cases hb : b.quantity? with
    | some y => simp [class?_ne_ownClass]
    | none => exact (ownClass_inj a b).trans (by simp [eq_comm])

theorem sameKey_comm (a b : Atom) : a.sameKey b = b.sameKey a := by
  rw [Bool.eq_iff_iff, sameKey_iff, sameKey_iff]
  simp only [and_comm]

/-- A key compares with others as every key does that is the same. -/
theorem sameKey_congr {a b : Atom} (h : a.sameKey b = true) (c : Atom) :
    a.sameKey c = b.sameKey c := by
  obtain ⟨x, ha, hb⟩ := (sameKey_iff a b).mp h
  rw [Bool.eq_iff_iff, sameKey_iff, sameKey_iff, ha, hb]

end Atom

namespace Entries

theorem get?_cons (k : Atom) (v : Value) (rest : Entries) (key : Atom) :
    get? ((k, v) :: rest) key = if k.sameKey key then some v else get? rest key := rfl

theorem get?_congr {k l : Atom} (h : k.sameKey l = true) (entries : Entries) :
    entries.get? k = entries.get? l := by
  induction entries with
  | nil => rfl
  | cons entry rest ih =>
    obtain ⟨m, v⟩ := entry
    rw [get?_cons, get?_cons, ih, Atom.sameKey_comm m k, Atom.sameKey_comm m l,
      Atom.sameKey_congr h]

/-- A change under a key shows under the keys that are the same, and nowhere else. -/
theorem get?_insert (entries : Entries) (k : Atom) (v : Value) (key : Atom) :
    (entries.insert k v).get? key = if k.sameKey key then some v else entries.get? key := by
  induction entries with
  | nil => rfl
  | cons entry rest ih =>
    obtain ⟨l, w⟩ := entry
    rw [insert]
    by_cases hl : l.sameKey k = true
    · rw [if_pos hl, get?_cons, get?_cons, Atom.sameKey_congr hl]
      by_cases hkey : k.sameKey key = true
      · rw [if_pos hkey, if_pos hkey]
      · rw [if_neg hkey, if_neg hkey, if_neg hkey]
    · rw [if_neg hl, get?_cons, get?_cons, ih]
      by_cases hkey : k.sameKey key = true
      · have hne : ¬ l.sameKey key = true := by
          rw [Atom.sameKey_comm, ← Atom.sameKey_congr hkey, Atom.sameKey_comm]
          exact hl
        rw [if_pos hkey, if_neg hne, if_pos hkey]
      · rw [if_neg hkey, if_neg hkey]

/-- The keys that are there keep their places in front of a new one. -/
theorem keys_insert_prefix (entries : Entries) (k : Atom) (v : Value) :
    entries.keys <+: (entries.insert k v).keys := by
  induction entries with
  | nil => exact List.nil_prefix
  | cons entry rest ih =>
    obtain ⟨l, w⟩ := entry
    rw [insert]
    by_cases hl : l.sameKey k = true
    · rw [if_pos hl]
      exact List.prefix_rfl
    · rw [if_neg hl]
      exact (List.prefix_cons_inj l).mpr ih

end Entries

end FlowTemplate
