import FlowTemplate.Json.Limit
import FlowTemplate.Proofs.Json.Grammar
/-!
# Limits of a text of the grammar

A reader's limits are looked for in one pass over the characters, which knows strings, numbers and
brackets. Over a text of the grammar the pass comes out at the depth where it went in, if it does not
stop: so what it finds in a value does not depend on what stands around it.
-/

namespace FlowTemplate.Json

/-! ## The pass without its fuel -/

theorem length_behindString_le (s : List Char) : (behindString s).length ≤ s.length := by
  fun_induction behindString s with
  | case1 => exact Nat.le_refl _
  | case2 rest => exact Nat.le_succ _
  | case3 c rest ih => simp; omega
  | case4 c rest _ _ ih => simp; omega

theorem length_readFraction_le (s : List Char) : (readFraction s).2.length ≤ s.length := by
  rcases h : readFraction s with ⟨fraction, rest⟩
  obtain ⟨places, rfl, -⟩ := exists_fraction_of_readFraction h
  simp

theorem length_readExponent_le (s : List Char) : (readExponent s).2.length ≤ s.length := by
  rcases h : readExponent s with ⟨exponent, rest⟩
  obtain ⟨power, rfl, -⟩ := exists_exponent_of_readExponent h
  simp

theorem length_skipNumber_le {c : Char} (hc : c.isDigit = true) (rest : List Char) :
    (skipNumber (c :: rest)).2.length ≤ rest.length := by
  have hspan : (spanDigits (c :: rest)).2.length ≤ rest.length := by
    rw [spanDigits, List.dropWhile_cons_of_pos hc]
    exact (List.dropWhile_suffix _).length_le
  exact Nat.le_trans (length_readExponent_le _) (Nat.le_trans (length_readFraction_le _) hspan)

/-- What a character does to the pass, given how the pass goes on. -/
def excessStep (goOn : Nat → List Char → Option Excess) (depth : Nat) (c : Char)
    (rest : List Char) : Option Excess :=
  if c = '"' then goOn depth (behindString rest)
  else if c == '[' || c == '\x7b' then
    if depth == maxDepth then some .depth else goOn (depth + 1) rest
  else if c == ']' || c == '\x7d' then goOn (depth - 1) rest
  else if c.isDigit then
    if (skipNumber (c :: rest)).1 then some .digits else goOn depth (skipNumber (c :: rest)).2
  else goOn depth rest

theorem excessWithin_cons (fuel depth : Nat) (c : Char) (rest : List Char) :
    excessWithin (fuel + 1) depth (c :: rest) = excessStep (excessWithin fuel) depth c rest := by
  rw [excessWithin.eq_def, excessStep]
  by_cases hc : c = '"'
  · subst c
    rfl
  · simp [hc]

/-- A step goes on with a shorter text. -/
theorem excessStep_congr {goOn goOn' : Nat → List Char → Option Excess} {rest : List Char}
    (h : ∀ depth (t : List Char), t.length ≤ rest.length → goOn depth t = goOn' depth t)
    (depth : Nat) (c : Char) : excessStep goOn depth c rest = excessStep goOn' depth c rest := by
  rw [excessStep, excessStep]
  split
  · exact h depth _ (length_behindString_le rest)
  split
  · rw [h (depth + 1) _ (Nat.le_refl _)]
  split
  · exact h (depth - 1) _ (Nat.le_refl _)
  split
  · rename_i hdigit
    rw [h depth _ (length_skipNumber_le hdigit rest)]
  · exact h depth _ (Nat.le_refl _)

theorem excessWithin_congr {fuel fuel' : Nat} (depth : Nat) {s : List Char} (h : s.length ≤ fuel)
    (h' : s.length ≤ fuel') : excessWithin fuel depth s = excessWithin fuel' depth s := by
  induction fuel generalizing fuel' depth s with
  | zero =>
    obtain rfl := List.length_eq_zero_iff.mp (Nat.le_zero.mp h)
    cases fuel' <;> rfl
  | succ fuel ih =>
    cases s with
    | nil => cases fuel' <;> rfl
    | cons c rest =>
      obtain ⟨fuel', rfl⟩ : ∃ m, fuel' = m + 1 := ⟨fuel' - 1, by simp at h'; omega⟩
      rw [excessWithin_cons, excessWithin_cons]
      -- A step leaves a shorter text, so on both sides what is left of the fuel is enough for it.
      exact excessStep_congr (fun depth t ht => ih depth
        (Nat.le_trans ht (Nat.le_of_succ_le_succ h))
        (Nat.le_trans ht (Nat.le_of_succ_le_succ h'))) depth c

/-- The first excess of a text inside of some containers. -/
def firstExcess (depth : Nat) (s : List Char) : Option Excess := excessWithin s.length depth s

theorem firstExcess_cons (depth : Nat) (c : Char) (rest : List Char) :
    firstExcess depth (c :: rest) = excessStep firstExcess depth c rest := by
  rw [firstExcess, List.length_cons, excessWithin_cons]
  exact excessStep_congr (fun depth t ht => excessWithin_congr depth ht (Nat.le_refl _)) depth c

/-- In a text that can be read nothing is left out. -/
theorem excess?_of_parse {text : String} {v : Value} (h : parse text = .ok v) :
    excess? text = firstExcess 0 text.toList := by
  rw [parse_eq_ok_iff, ← parseChars_eq_ok_iff] at h
  rw [excess?, h, Nat.sub_zero, List.take_length, firstExcess]

/-! ## Tokens and blanks -/

/-- Characters that the pass does something about. -/
def IsCounted (c : Char) : Prop := c = '"' ∨ c ∈ ['[', ']', '\x7b', '\x7d'] ∨ c.isDigit = true

instance : DecidablePred IsCounted := fun _ => inferInstanceAs (Decidable (_ ∨ _ ∨ _))

theorem firstExcess_skip {c : Char} (hc : ¬ IsCounted c) (depth : Nat) (rest : List Char) :
    firstExcess depth (c :: rest) = firstExcess depth rest := by
  simp only [IsCounted, List.mem_cons, List.not_mem_nil, or_false, not_or] at hc
  rw [firstExcess_cons, excessStep]
  simp [hc]

theorem firstExcess_opening {c : Char} (hc : c = '[' ∨ c = '\x7b') (depth : Nat)
    (rest : List Char) : firstExcess depth (c :: rest) =
      if depth = maxDepth then some .depth else firstExcess (depth + 1) rest := by
  rw [firstExcess_cons, excessStep]
  rcases hc with rfl | rfl <;> simp

theorem firstExcess_closing {c : Char} (hc : c = ']' ∨ c = '\x7d') (depth : Nat)
    (rest : List Char) : firstExcess depth (c :: rest) = firstExcess (depth - 1) rest := by
  rw [firstExcess_cons, excessStep]
  rcases hc with rfl | rfl <;> simp

theorem firstExcess_skips {s : List Char} (h : ∀ c ∈ s, ¬ IsCounted c) (depth : Nat)
    (rest : List Char) : firstExcess depth (s ++ rest) = firstExcess depth rest := by
  induction s with
  | nil => rfl
  | cons c s ih =>
    obtain ⟨hc, hs⟩ := List.forall_mem_cons.mp h
    rw [List.cons_append, firstExcess_skip hc, ih hs]

theorem Blanks.not_isCounted {blanks : List Char} (h : Blanks blanks) :
    ∀ c ∈ blanks, ¬ IsCounted c := by
  intro c hc
  have hblank := h c hc
  simp only [isBlank, Bool.or_eq_true, beq_iff_eq] at hblank
  rcases hblank with ((rfl | rfl) | rfl) | rfl <;> simp [IsCounted]

theorem behindString_cons {c : Char} (hquote : c ≠ '"') (hslash : c ≠ '\\') (rest : List Char) :
    behindString (c :: rest) = behindString rest := by
  rw [behindString]
  · exact fun h => hquote h
  · exact fun c' rest' h _ => hslash h

theorem behindString_body {raw text : List Char} (h : Body raw text) (rest : List Char) :
    behindString (raw ++ rest) = rest := by
  have hquad {a b c d : Char} {n : Nat} (quad : hexQuad? a b c d = some n) (tail : List Char) :
      behindString ('\\' :: 'u' :: a :: b :: c :: d :: tail) = behindString tail := by
    have hdigits := hexQuad?_eq_some quad
    simp only [List.forall_mem_cons] at hdigits
    obtain ⟨⟨-, ha⟩, ⟨-, hb⟩, ⟨-, hc⟩, ⟨-, hd⟩, -⟩ := hdigits
    rw [behindString, behindString_cons ha.1 ha.2, behindString_cons hb.1 hb.2,
      behindString_cons hc.1 hc.2, behindString_cons hd.1 hd.2]
  induction h with
  | close => rfl
  | plain quote slash control more ih => rw [List.cons_append, behindString_cons quote slash, ih]
  | short escape more ih => rw [List.cons_append, List.cons_append, behindString, ih]
  | unit quad alone more ih => exact (hquad quad _).trans ih
  | pair quad isHigh quad' isLow more ih => exact (hquad quad _).trans ((hquad quad' _).trans ih)

theorem firstExcess_string {raw text : List Char} (h : Body raw text) (depth : Nat)
    (rest : List Char) : firstExcess depth ('"' :: (raw ++ rest)) = firstExcess depth rest := by
  rw [firstExcess_cons, excessStep, if_pos rfl, behindString_body h]

/-- A number without a fraction and an exponent is too long or not by its digits. -/
theorem skipNumber_append {whole places power rest : List Char} {fraction : Option (List Char)}
    {exponent : Option Int} (isWhole : Whole whole) (isFraction : Fraction places fraction)
    (isExponent : Exponent power exponent) (hrest : Follows rest) :
    skipNumber (whole ++ (places ++ power) ++ rest) =
      (fraction.isNone && exponent.isNone && whole.length > Text.mostDigits, rest) := by
  obtain ⟨hdigit, hpoint⟩ := isExponent.head hrest
  have hspan := spanDigits_append isWhole.isDigits.2 (isFraction.noDigit hdigit)
  rw [List.append_assoc, List.append_assoc, skipNumber, hspan]
  dsimp only
  rw [readFraction_append isFraction hdigit hpoint]
  dsimp only
  rw [readExponent_append isExponent hrest.noDigit fun c hc => (hrest c hc).2.2]

/-! ## Texts of the grammar -/

/-- What the pass finds in a text by the depth where it comes in, and the depth where it comes out
otherwise. -/
def Scans (s : List Char) (found : Nat → Option Excess) (behind : Nat → Nat) : Prop :=
  ∀ depth rest, Follows rest →
    firstExcess depth (s ++ rest) = (found depth).or (firstExcess (behind depth) rest)

/-- The excess of a number. -/
def numberExcess (whole : List Char) (fraction : Option (List Char)) (exponent : Option Int) :
    Option Excess :=
  if fraction.isNone && exponent.isNone && whole.length > Text.mostDigits then some .digits
  else none

theorem scans_number {whole places power : List Char} {fraction : Option (List Char)}
    {exponent : Option Int} (isWhole : Whole whole) (isFraction : Fraction places fraction)
    (isExponent : Exponent power exponent) :
    Scans (whole ++ (places ++ power)) (fun _ => numberExcess whole fraction exponent) id := by
  intro depth rest hrest
  have hskip := skipNumber_append isWhole isFraction isExponent hrest
  obtain ⟨c, tail, hwhole, hc⟩ := isWhole.isDigits.exists_cons
  have hne {d : Char} (hd : d.isDigit = false) : c ≠ d := ne_of_isDigit hc hd
  have htext : whole ++ (places ++ power) ++ rest = c :: (tail ++ (places ++ power) ++ rest) := by
    rw [hwhole, List.cons_append, List.cons_append]
  rw [htext] at hskip ⊢
  rw [firstExcess_cons, excessStep, if_neg (hne rfl), if_neg (by simp [hne]), if_neg (by simp [hne]),
    if_pos hc, hskip, numberExcess, id_eq]
  split <;> rfl

variable {s t : List Char} {found more : Nat → Option Excess} {behind onward : Nat → Nat}

theorem Scans.skips (hs : Scans s found behind) {blanks : List Char}
    (h : ∀ c ∈ blanks, ¬ IsCounted c) : Scans (blanks ++ s) found behind := by
  intro depth rest hrest
  rw [List.append_assoc, firstExcess_skips h, hs depth rest hrest]

theorem Scans.skip (hs : Scans s found behind) {c : Char} (hc : ¬ IsCounted c) :
    Scans (c :: s) found behind :=
  hs.skips (List.forall_mem_singleton.mpr hc)

theorem scans_nil : Scans [] (fun _ => none) id := fun _ _ _ => rfl

theorem Scans.string (hs : Scans s found behind) {raw text : List Char} (body : Body raw text) :
    Scans ('"' :: (raw ++ s)) found behind := by
  intro depth rest hrest
  rw [List.cons_append, List.append_assoc, firstExcess_string body, hs depth rest hrest]

theorem Scans.opening (hs : Scans s found behind) {c : Char} (hc : c = '[' ∨ c = '\x7b') :
    Scans (c :: s) (fun depth => if depth = maxDepth then some .depth else found (depth + 1))
      fun depth => behind (depth + 1) := by
  intro depth rest hrest
  rw [List.cons_append, firstExcess_opening hc, hs (depth + 1) rest hrest]
  dsimp only
  split <;> rfl

theorem scans_closing {c : Char} (hc : c = ']' ∨ c = '\x7d') :
    Scans [c] (fun _ => none) fun depth => depth - 1 :=
  fun depth rest _ => firstExcess_closing hc depth rest

/-- A text is gone through up to the next one, if that does not go on with a number. -/
theorem Scans.append (hs : Scans s found behind) (ht : Scans t more onward)
    (hnext : ∀ rest, Follows rest → Follows (t ++ rest)) :
    Scans (s ++ t) (fun depth => (found depth).or (more (behind depth)))
      fun depth => onward (behind depth) := by
  intro depth rest hrest
  rw [List.append_assoc, hs depth _ (hnext rest hrest), ht _ rest hrest, Option.or_assoc]

section Containers

variable {before after : List Char}

/-- What follows blanks and a character that no number goes on with. -/
theorem follows_blanks (h : Blanks before) {c : Char}
    (hc : c.isDigit = false ∧ c ≠ '.' ∧ c ≠ 'e' ∧ c ≠ 'E') (s rest : List Char) :
    Follows (before ++ c :: s ++ rest) := by
  rw [List.append_assoc]
  exact h.follows (follows_cons _ hc)

/-- A container is as deep behind its end as in front of it. -/
theorem Scans.container (hs : Scans s found fun depth => depth - 1) {c : Char}
    (hc : c = '[' ∨ c = '\x7b') (hblanks : Blanks after) : Scans (c :: (after ++ s))
      (fun depth => if depth = maxDepth then some .depth else found (depth + 1)) id :=
  (hs.skips hblanks.not_isCounted).opening hc

/-- A value in front of the bracket that closes its container. -/
theorem Scans.close (hs : Scans s found id) {c : Char} (hc : c = ']' ∨ c = '\x7d')
    (hblanks : Blanks before) : Scans (s ++ (before ++ [c])) found fun depth => depth - 1 := by
  have hnumber : c.isDigit = false ∧ c ≠ '.' ∧ c ≠ 'e' ∧ c ≠ 'E' := by
    rcases hc with rfl | rfl <;> decide
  have hclosed := hs.append ((scans_closing hc).skips hblanks.not_isCounted)
    fun rest _ => follows_blanks hblanks hnumber [] rest
  simpa only [Option.or_none, id_eq] using hclosed

/-- A value in front of the next one. -/
theorem Scans.comma (hs : Scans s found id) (ht : Scans t more onward) (hbefore : Blanks before)
    (hafter : Blanks after) : Scans (s ++ (before ++ ',' :: (after ++ t)))
      (fun depth => (found depth).or (more depth)) onward :=
  hs.append (((ht.skips hafter.not_isCounted).skip (by decide)).skips hbefore.not_isCounted)
    fun rest _ => follows_blanks hbefore (by decide) _ rest

/-- A value behind its key. -/
theorem Scans.member (hs : Scans s found behind) {raw key : List Char} (body : Body raw key)
    (hbefore : Blanks before) (hafter : Blanks after) :
    Scans ('"' :: (raw ++ (before ++ ':' :: (after ++ s)))) found behind :=
  (((hs.skips hafter.not_isCounted).skip (by decide)).skips hbefore.not_isCounted).string body

end Containers

theorem scans_word {word : String} {a : Atom} (h : (word, a) ∈ words) :
    Scans word.toList (fun _ => none) id := by
  have hwords : ∀ entry ∈ words, ∀ c ∈ entry.1.toList, ¬ IsCounted c := by
    simp [words, IsCounted]
  simpa only [List.append_nil] using scans_nil.skips (hwords _ h)

/-- A word has no excess, and a number has one or not. -/
theorem Scalar.scans {a : Atom} (h : Scalar s a) : ∃ found, Scans s found id := by
  cases h with
  | word listed => exact ⟨_, scans_word listed⟩
  | number isNumber =>
    obtain ⟨isWhole, isFraction, isExponent⟩ := isNumber
    exact ⟨_, scans_number isWhole isFraction isExponent⟩
  | negative isNumber =>
    obtain ⟨isWhole, isFraction, isExponent⟩ := isNumber
    exact ⟨_, (scans_number isWhole isFraction isExponent).skip (by decide)⟩

/-- The depth behind a piece. Items and members take the bracket that closes their container. -/
def Piece.depthBehind : Piece → Nat → Nat
  | .value _ | .member _ => id
  | .items _ | .members _ => fun depth => depth - 1

end FlowTemplate.Json
