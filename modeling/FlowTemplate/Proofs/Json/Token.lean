import FlowTemplate.Json.Parser
import FlowTemplate.Proofs.Computation
/-!
# The tokens of JSON text

What stands between quotes, words and numbers, by their grammar. The reader takes a token exactly
if the text starts with one; after a number it has to be certain that the number does not go on,
which is all that `Follows` says about what comes next.
-/

namespace FlowTemplate.Json

/-! ## Texts -/

/-- The next escape writes the lower half of a surrogate pair. -/
def LowNext (raw : List Char) : Prop :=
  ∃ a b c d low rest, raw = '\\' :: 'u' :: a :: b :: c :: d :: rest ∧
    hexQuad? a b c d = some low ∧ Text.isLowSurrogate low = true

/-- What stands behind an opening quote, up to the closing one, and the characters it writes. -/
inductive Body : List Char → List Char → Prop
  | close : Body ['"'] []
  | plain {c : Char} {raw text : List Char} (quote : c ≠ '"') (slash : c ≠ '\\')
      (control : ¬ c.toNat < 0x20) (more : Body raw text) : Body (c :: raw) (c :: text)
  | short {c decoded : Char} {raw text : List Char} (escape : shortEscape? c = some decoded)
      (more : Body raw text) : Body ('\\' :: c :: raw) (decoded :: text)
  | unit {a b c d : Char} {n : Nat} {raw text : List Char} (quad : hexQuad? a b c d = some n)
      (alone : Text.isHighSurrogate n = true → ¬ LowNext raw) (more : Body raw text) :
      Body ('\\' :: 'u' :: a :: b :: c :: d :: raw) (Text.ofCodePoint n ++ text)
  | pair {a b c d a' b' c' d' : Char} {high low : Nat} {raw text : List Char}
      (quad : hexQuad? a b c d = some high) (isHigh : Text.isHighSurrogate high = true)
      (quad' : hexQuad? a' b' c' d' = some low) (isLow : Text.isLowSurrogate low = true)
      (more : Body raw text) :
      Body ('\\' :: 'u' :: a :: b :: c :: d :: '\\' :: 'u' :: a' :: b' :: c' :: d' :: raw)
        (Char.ofNat (Text.joinSurrogates high low) :: text)

theorem Body.exists_cons {raw text : List Char} (h : Body raw text) :
    ∃ c rest, raw = c :: rest := by
  cases h <;> exact ⟨_, _, rfl⟩

/-- A hexadecimal digit is no control character, no quote and no backslash. -/
theorem hexValue?_eq_some {c : Char} {n : Nat} (h : hexValue? c = some n) :
    ¬ c.toNat < 0x20 ∧ c ≠ '"' ∧ c ≠ '\\' := by
  refine ⟨fun hcontrol => ?_, ?_, ?_⟩
  · have hle {d : Char} (hd : 0x20 ≤ d.toNat) : (decide (d ≤ c)) = false := by
      refine decide_eq_false fun hle => ?_
      have hnat : d.toNat ≤ c.toNat := hle
      omega
    have hnone : hexValue? c = none := by
      rw [hexValue?, hle (by decide), hle (by decide), hle (by decide)]
      rfl
    cases hnone.symm.trans h
  · rintro rfl
    cases h
  · rintro rfl
    cases h

theorem hexQuad?_eq_some {a b c d : Char} {n : Nat} (h : hexQuad? a b c d = some n) :
    ∀ e ∈ [a, b, c, d], ¬ e.toNat < 0x20 ∧ e ≠ '"' ∧ e ≠ '\\' := by
  unfold hexQuad? at h
  split at h
  · rename_i ha hb hc hd
    intro e he
    simp only [List.mem_cons, List.not_mem_nil, or_false] at he
    rcases he with rfl | rfl | rfl | rfl
    · exact hexValue?_eq_some ha
    · exact hexValue?_eq_some hb
    · exact hexValue?_eq_some hc
    · exact hexValue?_eq_some hd
  · cases h

theorem shortEscape?_eq_some {c decoded : Char} (h : shortEscape? c = some decoded) :
    ¬ c.toNat < 0x20 := by
  unfold shortEscape? at h
  split at h <;> first | decide | cases h

/-- Between quotes there are no control characters. -/
theorem Body.not_control {raw text : List Char} (h : Body raw text) :
    ∀ c ∈ raw, ¬ c.toNat < 0x20 := by
  induction h with
  | close => simp
  | plain quote slash control more ih => exact List.forall_mem_cons.mpr ⟨control, ih⟩
  | short escape more ih =>
    exact List.forall_mem_cons.mpr ⟨by decide,
      List.forall_mem_cons.mpr ⟨shortEscape?_eq_some escape, ih⟩⟩
  | unit quad alone more ih =>
    have hquad := hexQuad?_eq_some quad
    simp only [List.forall_mem_cons] at hquad ⊢
    exact ⟨by decide, by decide, hquad.1.1, hquad.2.1.1, hquad.2.2.1.1, hquad.2.2.2.1.1, ih⟩
  | pair quad isHigh quad' isLow more ih =>
    have hquad := hexQuad?_eq_some quad
    have hquad' := hexQuad?_eq_some quad'
    simp only [List.forall_mem_cons] at hquad hquad' ⊢
    exact ⟨by decide, by decide, hquad.1.1, hquad.2.1.1, hquad.2.2.1.1, hquad.2.2.2.1.1,
      by decide, by decide, hquad'.1.1, hquad'.2.1.1, hquad'.2.2.1.1, hquad'.2.2.2.1.1, ih⟩

theorem isLowSurrogate_of_isHighSurrogate {n : Nat} (h : Text.isHighSurrogate n = true) :
    Text.isLowSurrogate n = false := by
  simp only [Text.isHighSurrogate, Text.isLowSurrogate, Bool.and_eq_true, Bool.and_eq_false_iff,
    decide_eq_true_eq, decide_eq_false_iff_not] at *
  omega

/-- A second escape counts if it is that of a lower half. The text cannot end with it. -/
theorem following_escape {a b c d : Char} {n : Nat} (hquad : hexQuad? a b c d = some n)
    {s : List Char} (hs : s ≠ []) : following ('\\' :: 'u' :: a :: b :: c :: d :: s) =
      if Text.isLowSurrogate n then .pair n else .other := by
  obtain ⟨e, rest, rfl⟩ := List.exists_cons_of_ne_nil hs
  rw [following, hquad]

/-- A text without the escape of a lower half at its front cannot complete a pair. -/
theorem following_other {raw text : List Char} (h : Body raw text) (hlow : ¬ LowNext raw)
    (rest : List Char) : following (raw ++ rest) = .other := by
  cases h with
  | close => rfl
  | plain quote slash control more =>
    rw [List.cons_append, following.eq_def]
    split
    · rename_i hs
      exact absurd (List.cons.inj hs).1 slash
    · rfl
  | short escape more =>
    rw [List.cons_append, List.cons_append, following.eq_def]
    split
    · rename_i hs
      rw [(List.cons.inj (List.cons.inj hs).2).1] at escape
      cases escape
    · rfl
  | unit quad alone more =>
    obtain ⟨e, tail, rfl⟩ := more.exists_cons
    refine (following_escape quad (List.cons_ne_nil e (tail ++ rest))).trans (if_neg fun hn => ?_)
    exact hlow ⟨_, _, _, _, _, _, rfl, quad, hn⟩
  | pair quad isHigh quad' isLow more =>
    refine (following_escape quad (List.cons_ne_nil _ _)).trans (if_neg ?_)
    simp [isLowSurrogate_of_isHighSurrogate isHigh]

/-- The reader takes all that stands between quotes, whatever follows. -/
theorem readText_body {raw text : List Char} (h : Body raw text) (opening : Nat)
    (done rest : List Char) :
    readText opening done (raw ++ rest) = .ok (text.reverse ++ done, rest) := by
  induction h generalizing done with
  | close => rfl
  | plain quote slash control more ih =>
    rw [List.cons_append, readText, if_neg control, ih]
    · simp
    · exact fun h => quote h
    · exact fun h _ => slash h
    · exact fun a b c d e rest' h _ => slash h
    · exact fun d rest' h _ => slash h
  | @short c decoded raw text escape more ih =>
    have hu : c ≠ 'u' := by
      rintro rfl
      cases escape
    rw [List.cons_append, List.cons_append, readText, if_neg (by simpa using hu), escape]
    · dsimp only
      rw [ih]
      simp
    · exact fun a b c' d e rest' h _ => hu h
  | @unit a b c d n raw text quad alone more ih =>
    obtain ⟨e, tail, htail⟩ := more.exists_cons
    have hread := ih ((Text.ofCodePoint n).reverse ++ done)
    have hafter : Text.isHighSurrogate n = true → following (raw ++ rest) = .other :=
      fun hn => following_other more (alone hn) rest
    simp only [List.cons_append]
    rw [htail, List.cons_append] at hread hafter ⊢
    rw [readText, quad]
    dsimp only
    split
    · rename_i hn
      rw [hafter hn]
      simpa using hread
    · simpa using hread
  | @pair a b c d a' b' c' d' high low raw text quad isHigh quad' isLow more ih =>
    have hafter : following ('\\' :: 'u' :: a' :: b' :: c' :: d' :: (raw ++ rest)) = .pair low := by
      obtain ⟨e, tail, rfl⟩ := more.exists_cons
      exact (following_escape quad' (List.cons_ne_nil e (tail ++ rest))).trans (if_pos isLow)
    simp only [List.cons_append]
    rw [readText, quad]
    dsimp only
    rw [if_pos isHigh, hafter]
    exact (ih _).trans (by simp)

theorem Body.ne_nil_of_escape {a b c d : Char} {tail text : List Char}
    (h : Body ('\\' :: 'u' :: a :: b :: c :: d :: tail) text) : tail ≠ [] := by
  cases h with
  | plain quote slash control more => exact absurd rfl slash
  | short escape more => cases escape
  | unit quad alone more =>
    obtain ⟨e, rest, rfl⟩ := more.exists_cons
    exact List.cons_ne_nil e rest
  | pair quad isHigh quad' isLow more => exact List.cons_ne_nil _ _

theorem low_of_following {a b c d : Char} {low : Nat} {s : List Char} (hs : s ≠ [])
    (h : following ('\\' :: 'u' :: a :: b :: c :: d :: s) = .pair low) :
    hexQuad? a b c d = some low ∧ Text.isLowSurrogate low = true := by
  cases hquad : hexQuad? a b c d with
  | none =>
    obtain ⟨e, rest, rfl⟩ := List.exists_cons_of_ne_nil hs
    rw [following, hquad] at h
    cases h
  | some n =>
    rw [following_escape hquad hs] at h
    split at h
    · cases h
      exact ⟨rfl, ‹_›⟩
    · cases h

/-- What the reader takes after an opening quote follows the grammar. -/
theorem exists_body_of_readText {opening : Nat} {done s out rest : List Char}
    (h : readText opening done s = .ok (out, rest)) :
    ∃ raw text, s = raw ++ rest ∧ Body raw text ∧ out = text.reverse ++ done := by
  fun_induction readText opening done s with
  | case1 | case3 | case4 | case5 | case8 | case10 | case12 | case13 => cases h
  | case2 done after =>
    cases h
    exact ⟨['"'], [], rfl, .close, rfl⟩
  | case6 done a b c d e after n hquad hhigh hafter ih =>
    obtain ⟨raw, text, hs, hbody, rfl⟩ := ih h
    refine ⟨_, _, by simp [hs], .unit hquad (fun _ hlow => ?_) hbody, by simp⟩
    obtain ⟨a', b', c', d', low, tail, rfl, hquad', hlow⟩ := hlow
    have htail : tail ++ rest ≠ [] := List.append_ne_nil_of_left_ne_nil hbody.ne_nil_of_escape rest
    rw [hs] at hafter
    cases hafter.symm.trans ((following_escape hquad' htail).trans (if_pos hlow))
  | case7 done a b c d n hquad hhigh low a' b' c' d' after hafter ih =>
    obtain ⟨raw, text, rfl, hbody, rfl⟩ := ih h
    obtain ⟨e, tail, htail⟩ := hbody.exists_cons
    obtain ⟨hquad', hlow⟩ := low_of_following (by simp [htail]) hafter
    exact ⟨_, _, rfl, .pair hquad hhigh hquad' hlow hbody, by simp⟩
  | case9 done a b c d e after n hquad hhigh ih =>
    obtain ⟨raw, text, hs, hbody, rfl⟩ := ih h
    exact ⟨_, _, by simp [hs], .unit hquad (fun hn => absurd hn hhigh) hbody, by simp⟩
  | case11 done c after hnot hu decoded hescape ih =>
    obtain ⟨raw, text, rfl, hbody, rfl⟩ := ih h
    exact ⟨'\\' :: c :: raw, decoded :: text, rfl, .short hescape hbody, by simp⟩
  | case14 done c after hquote hend hunit hescape hcontrol ih =>
    obtain ⟨raw, text, rfl, hbody, rfl⟩ := ih h
    refine ⟨c :: raw, c :: text, rfl, .plain hquote (fun hslash => ?_) hcontrol hbody, by simp⟩
    obtain ⟨e, tail, rfl⟩ := hbody.exists_cons
    exact hescape e (tail ++ rest) hslash rfl

theorem readString_body {raw text : List Char} (h : Body raw text) (rest : List Char) :
    readString (raw ++ rest) = .ok (String.ofList text, rest) := by
  rw [readString, readText_body h]
  simp [bind, Except.bind, pure, Except.pure]

theorem exists_body_of_readString {s rest : List Char} {text : String}
    (h : readString s = .ok (text, rest)) :
    ∃ raw chars, s = raw ++ rest ∧ Body raw chars ∧ text = String.ofList chars := by
  obtain ⟨⟨reversed, after⟩, hread, h⟩ := Computation.bind_eq_ok h
  cases h
  obtain ⟨raw, chars, rfl, hbody, rfl⟩ := exists_body_of_readText hread
  exact ⟨raw, chars, rfl, hbody, by simp⟩

/-! ## Numbers -/

/-- What can stand behind a value: nothing that would go on with a number. -/
def Follows (rest : List Char) : Prop :=
  ∀ c ∈ rest.head?, c.isDigit = false ∧ c ≠ '.' ∧ c ≠ 'e' ∧ c ≠ 'E'

theorem follows_nil : Follows [] := by simp [Follows]

theorem follows_cons {c : Char} (rest : List Char)
    (h : c.isDigit = false ∧ c ≠ '.' ∧ c ≠ 'e' ∧ c ≠ 'E') : Follows (c :: rest) := by
  simpa [Follows] using h

/-- No digit comes next. -/
def NoDigit (rest : List Char) : Prop := ∀ c ∈ rest.head?, c.isDigit = false

theorem Follows.noDigit {rest : List Char} (h : Follows rest) : NoDigit rest :=
  fun c hc => (h c hc).1

/-- Digits, at least one. -/
def Digits (s : List Char) : Prop := s ≠ [] ∧ ∀ c ∈ s, c.isDigit = true

/-- A run of digits is taken whole. -/
theorem spanDigits_append {digits rest : List Char} (hdigits : ∀ c ∈ digits, c.isDigit = true)
    (h : NoDigit rest) : spanDigits (digits ++ rest) = (digits, rest) := by
  have hrest : rest.takeWhile Char.isDigit = [] ∧ rest.dropWhile Char.isDigit = rest := by
    cases rest with
    | nil => simp
    | cons c rest => simp [h c rfl]
  rw [spanDigits, List.takeWhile_append_of_pos hdigits, List.dropWhile_append_of_pos hdigits,
    hrest.1, hrest.2, List.append_nil]

theorem eq_append_of_spanDigits {s digits rest : List Char} (h : spanDigits s = (digits, rest)) :
    s = digits ++ rest ∧ ∀ c ∈ digits, c.isDigit = true := by
  obtain ⟨rfl, rfl⟩ := Prod.mk.inj h
  exact ⟨List.takeWhile_append_dropWhile.symm, List.all_eq_true.mp List.all_takeWhile⟩

/-- The digits before the point. -/
inductive Whole : List Char → Prop
  | zero : Whole ['0']
  | digits {c : Char} {rest : List Char} (first : c ≠ '0') (isDigits : Digits (c :: rest)) :
      Whole (c :: rest)

/-- A point and digits, or nothing, and the digits that count as the fraction. -/
inductive Fraction : List Char → Option (List Char) → Prop
  | absent : Fraction [] none
  | present {digits : List Char} (isDigits : Digits digits) : Fraction ('.' :: digits) (some digits)

/-- The sign of an exponent, which may be missing, and whether it is negative. -/
inductive Sign : List Char → Bool → Prop
  | none : Sign [] false
  | plus : Sign ['+'] false
  | minus : Sign ['-'] true

/-- A letter, a sign and digits, or nothing, and the exponent. -/
inductive Exponent : List Char → Option Int → Prop
  | absent : Exponent [] none
  | present {letter : Char} {sign digits : List Char} {negative : Bool}
      (isLetter : letter = 'e' ∨ letter = 'E') (hasSign : Sign sign negative)
      (isDigits : Digits digits) : Exponent (letter :: (sign ++ digits))
        (some (if negative then -(digitsValue digits : Int) else digitsValue digits))

/-- The number that the parts of a number write. -/
def numberAtom (negative : Bool) (whole : List Char) (fraction : Option (List Char))
    (exponent : Option Int) : Atom :=
  match fraction, exponent with
  | none, none => .int (if negative then -(digitsValue whole : Int) else digitsValue whole)
  | _, _ =>
    let places := fraction.getD []
    .float (Binary64.ofDecimal negative (digitsValue (whole ++ places))
      (exponent.getD 0 - places.length))

/-- A number without its sign. -/
inductive Number (negative : Bool) : List Char → Atom → Prop
  | parts {whole places power : List Char} {fraction : Option (List Char)} {exponent : Option Int}
      (isWhole : Whole whole) (isFraction : Fraction places fraction)
      (isExponent : Exponent power exponent) :
      Number negative (whole ++ (places ++ power)) (numberAtom negative whole fraction exponent)

theorem Digits.exists_cons {s : List Char} (h : Digits s) :
    ∃ c rest, s = c :: rest ∧ c.isDigit = true := by
  obtain ⟨c, rest, rfl⟩ := List.exists_cons_of_ne_nil h.1
  exact ⟨c, rest, rfl, h.2 c List.mem_cons_self⟩

theorem ne_of_isDigit {c d : Char} (hc : c.isDigit = true) (hd : d.isDigit = false) : c ≠ d := by
  rintro rfl
  rw [hc] at hd
  cases hd

/-- The parts of a number are taken as far as they go. -/
theorem readWhole?_append {whole rest : List Char} (h : Whole whole) (hrest : NoDigit rest) :
    readWhole? (whole ++ rest) = some (whole, rest) := by
  cases h with
  | zero => rfl
  | @digits c tail first isDigits =>
    have hc := isDigits.2 c List.mem_cons_self
    have htail := spanDigits_append
      (fun d hd => isDigits.2 d (List.mem_cons_of_mem c hd)) hrest
    rw [List.cons_append, readWhole?, if_pos hc, htail]
    exact first

theorem readFraction_append {places rest : List Char} {fraction : Option (List Char)}
    (h : Fraction places fraction) (hrest : NoDigit rest)
    (hpoint : ∀ c ∈ rest.head?, c ≠ '.') :
    readFraction (places ++ rest) = (fraction, rest) := by
  cases h with
  | absent =>
    rw [List.nil_append, readFraction.eq_def]
    split
    · exact absurd rfl (hpoint '.' rfl)
    · rfl
  | present isDigits =>
    rw [List.cons_append, readFraction, spanDigits_append isDigits.2 hrest]
    split
    · rename_i hnone
      exact absurd (Prod.mk.inj hnone).1 isDigits.1
    · rename_i hsome
      cases hsome
      rfl

theorem readSign_append {sign digits : List Char} {negative : Bool} (h : Sign sign negative)
    (hdigits : Digits digits) (rest : List Char) :
    readSign (sign ++ digits ++ rest) = (negative, digits ++ rest) := by
  cases h with
  | none =>
    obtain ⟨c, tail, rfl, hc⟩ := hdigits.exists_cons
    have hplus : c ≠ '+' := ne_of_isDigit hc rfl
    have hminus : c ≠ '-' := ne_of_isDigit hc rfl
    rw [List.nil_append, List.cons_append, readSign.eq_def]
    split <;> simp_all
  | plus => rfl
  | minus => rfl

theorem readExponent_append {power rest : List Char} {exponent : Option Int}
    (h : Exponent power exponent) (hrest : NoDigit rest)
    (hletter : ∀ c ∈ rest.head?, c ≠ 'e' ∧ c ≠ 'E') :
    readExponent (power ++ rest) = (exponent, rest) := by
  cases h with
  | absent =>
    cases rest with
    | nil => rfl
    | cons c rest =>
      have hc := hletter c rfl
      simp [readExponent, hc.1, hc.2]
  | @present letter sign digits negative isLetter hasSign isDigits =>
    have hletter : (letter == 'e' || letter == 'E') = true := by simpa using isLetter
    rw [List.cons_append, readExponent, if_pos hletter, readSign_append hasSign isDigits]
    dsimp only
    rw [spanDigits_append isDigits.2 hrest]
    split
    · rename_i hnone
      exact absurd (Prod.mk.inj hnone).1 isDigits.1
    · rename_i hsome
      cases hsome
      rfl

theorem Fraction.noDigit {places rest : List Char} {fraction : Option (List Char)}
    (h : Fraction places fraction) (hrest : NoDigit rest) : NoDigit (places ++ rest) := by
  cases h with
  | absent => exact hrest
  | present isDigits => exact fun c hc => by cases hc; rfl

theorem Exponent.head {power rest : List Char} {exponent : Option Int}
    (h : Exponent power exponent) (hrest : Follows rest) :
    NoDigit (power ++ rest) ∧ ∀ c ∈ (power ++ rest).head?, c ≠ '.' := by
  cases h with
  | absent => exact ⟨hrest.noDigit, fun c hc => (hrest c hc).2.1⟩
  | present isLetter hasSign isDigits =>
    refine ⟨fun c hc => ?_, fun c hc => ?_⟩
    all_goals
      cases hc
      rcases isLetter with rfl | rfl <;> decide

theorem readNumber?_append {negative : Bool} {s rest : List Char} {a : Atom}
    (h : Number negative s a) (hrest : Follows rest) :
    readNumber? negative (s ++ rest) = some (a, rest) := by
  obtain @⟨whole, places, power, fraction, exponent, isWhole, isFraction, isExponent⟩ := h
  obtain ⟨hdigit, hpoint⟩ := isExponent.head hrest
  rw [List.append_assoc, List.append_assoc, readNumber?,
    readWhole?_append isWhole (isFraction.noDigit hdigit), Option.bind_eq_bind, Option.bind_some]
  dsimp only
  rw [readFraction_append isFraction hdigit hpoint]
  dsimp only
  rw [readExponent_append isExponent hrest.noDigit fun c hc => (hrest c hc).2.2]
  cases fraction <;> cases exponent <;> rfl

theorem exists_whole_of_readWhole? {s digits rest : List Char}
    (h : readWhole? s = some (digits, rest)) : s = digits ++ rest ∧ Whole digits := by
  rw [readWhole?.eq_def] at h
  split at h
  · cases h
    exact ⟨rfl, .zero⟩
  · rename_i c tail hzero
    split at h
    · rename_i hc
      cases h
      obtain ⟨htail, hdigits⟩ := eq_append_of_spanDigits (s := tail) rfl
      refine ⟨congrArg (c :: ·) htail, .digits (fun h => hzero h) ⟨List.cons_ne_nil _ _, ?_⟩⟩
      exact List.forall_mem_cons.mpr ⟨hc, hdigits⟩
    · cases h
  · cases h

theorem exists_fraction_of_readFraction {s rest : List Char} {fraction : Option (List Char)}
    (h : readFraction s = (fraction, rest)) :
    ∃ places, s = places ++ rest ∧ Fraction places fraction := by
  rw [readFraction.eq_def] at h
  split at h
  · split at h
    · cases h
      exact ⟨[], rfl, .absent⟩
    · rename_i digits after hdigits hspan
      cases h
      obtain ⟨rfl, hall⟩ := eq_append_of_spanDigits hspan
      exact ⟨'.' :: digits, rfl, .present ⟨hdigits, hall⟩⟩
  · cases h
    exact ⟨[], rfl, .absent⟩

theorem exists_sign_of_readSign {s rest : List Char} {negative : Bool}
    (h : readSign s = (negative, rest)) : ∃ sign, s = sign ++ rest ∧ Sign sign negative := by
  rw [readSign.eq_def] at h
  split at h
  · cases h
    exact ⟨['-'], rfl, .minus⟩
  · cases h
    exact ⟨['+'], rfl, .plus⟩
  · cases h
    exact ⟨[], rfl, .none⟩

theorem exists_exponent_of_readExponent {s rest : List Char} {exponent : Option Int}
    (h : readExponent s = (exponent, rest)) :
    ∃ power, s = power ++ rest ∧ Exponent power exponent := by
  rw [readExponent.eq_def] at h
  split at h
  · rename_i c tail
    split at h
    · rename_i hletter
      rcases hsign : readSign tail with ⟨negative, after⟩
      obtain ⟨sign, rfl, hasSign⟩ := exists_sign_of_readSign hsign
      rw [hsign] at h
      dsimp only at h
      split at h
      · cases h
        exact ⟨[], rfl, .absent⟩
      · rename_i digits behind hdigits hspan
        cases h
        obtain ⟨rfl, hall⟩ := eq_append_of_spanDigits hspan
        exact ⟨c :: (sign ++ digits), by simp,
          .present (by simpa using hletter) hasSign ⟨hdigits, hall⟩⟩
    · cases h
      exact ⟨[], rfl, .absent⟩
  · cases h
    exact ⟨[], rfl, .absent⟩

theorem exists_number_of_readNumber? {negative : Bool} {s rest : List Char} {a : Atom}
    (h : readNumber? negative s = some (a, rest)) :
    ∃ token, s = token ++ rest ∧ Number negative token a := by
  rw [readNumber?] at h
  obtain ⟨⟨whole, behind⟩, hwhole, hparts⟩ := Option.bind_eq_some_iff.mp h
  clear h
  obtain ⟨rfl, isWhole⟩ := exists_whole_of_readWhole? hwhole
  rcases hfraction : readFraction behind with ⟨fraction, after⟩
  obtain ⟨places, rfl, isFraction⟩ := exists_fraction_of_readFraction hfraction
  rcases hexponent : readExponent after with ⟨exponent, last⟩
  obtain ⟨power, rfl, isExponent⟩ := exists_exponent_of_readExponent hexponent
  have hvalue : some (numberAtom negative whole fraction exponent, last) = some (a, rest) := by
    rw [← hparts]
    dsimp only
    rw [hfraction]
    dsimp only
    rw [hexponent]
    cases fraction <;> cases exponent <;> rfl
  cases hvalue
  exact ⟨_, by simp, .parts isWhole isFraction isExponent⟩

theorem Whole.isDigits {whole : List Char} (h : Whole whole) : Digits whole := by
  cases h with
  | zero => exact ⟨List.cons_ne_nil _ _, List.forall_mem_singleton.mpr rfl⟩
  | digits first isDigits => exact isDigits

theorem Number.exists_cons {negative : Bool} {s : List Char} {a : Atom}
    (h : Number negative s a) : ∃ c rest, s = c :: rest ∧ c.isDigit = true := by
  obtain ⟨isWhole, -, -⟩ := h
  obtain ⟨c, rest, rfl, hc⟩ := isWhole.isDigits.exists_cons
  exact ⟨c, _, rfl, hc⟩

/-! ## Words and numbers -/

/-- A word or a number. -/
inductive Scalar : List Char → Atom → Prop
  | word {word : String} {a : Atom} (listed : (word, a) ∈ words) : Scalar word.toList a
  | number {s : List Char} {a : Atom} (isNumber : Number false s a) : Scalar s a
  | negative {s : List Char} {a : Atom} (isNumber : Number true s a) : Scalar ('-' :: s) a

/-- No word starts with a digit, with or without a sign in front. -/
theorem words_of_digit {c : Char} (hc : c.isDigit = true) (rest : List Char) :
    (words.findSome? fun (word, a) => (dropWord? word.toList (c :: rest)).map (a, ·)) = none ∧
    (words.findSome? fun (word, a) => (dropWord? word.toList ('-' :: c :: rest)).map (a, ·)) =
      none := by
  have hne : ∀ d : Char, d.isDigit = false → (d == c) = false := fun d hd =>
    beq_eq_false_iff_ne.mpr (ne_of_isDigit hc hd).symm
  simp [words, dropWord?, hne]

theorem readScalar?_digit {c : Char} (hc : c.isDigit = true) (rest : List Char) :
    readScalar? (c :: rest) = readNumber? false (c :: rest) := by
  have hminus : c ≠ '-' := ne_of_isDigit hc rfl
  rw [readScalar?, (words_of_digit hc rest).1]
  simp [hminus]

theorem readScalar?_minus {c : Char} (hc : c.isDigit = true) (rest : List Char) :
    readScalar? ('-' :: c :: rest) = readNumber? true (c :: rest) := by
  rw [readScalar?, (words_of_digit hc rest).2]

theorem readScalar?_append {s rest : List Char} {a : Atom} (h : Scalar s a)
    (hrest : Follows rest) : readScalar? (s ++ rest) = some (a, rest) := by
  cases h with
  | word listed =>
    simp only [words, List.mem_cons, Prod.mk.injEq, List.not_mem_nil, or_false] at listed
    rcases listed with ⟨rfl, rfl⟩ | ⟨rfl, rfl⟩ | ⟨rfl, rfl⟩ | ⟨rfl, rfl⟩ | ⟨rfl, rfl⟩ | ⟨rfl, rfl⟩
    all_goals rfl
  | number isNumber =>
    have hread := readNumber?_append isNumber hrest
    obtain ⟨c, tail, rfl, hc⟩ := isNumber.exists_cons
    exact (readScalar?_digit hc (tail ++ rest)).trans hread
  | negative isNumber =>
    have hread := readNumber?_append isNumber hrest
    obtain ⟨c, tail, rfl, hc⟩ := isNumber.exists_cons
    exact (readScalar?_minus hc (tail ++ rest)).trans hread

theorem eq_append_of_dropWord? {word s rest : List Char} (h : dropWord? word s = some rest) :
    s = word ++ rest := by
  fun_induction dropWord? word s with
  | case1 => exact Option.some.inj h
  | case2 w word c s hw ih =>
    obtain rfl := beq_iff_eq.mp hw
    rw [ih h, List.cons_append]
  | case3 | case4 => cases h

theorem exists_scalar_of_readScalar? {s rest : List Char} {a : Atom}
    (h : readScalar? s = some (a, rest)) : ∃ token, s = token ++ rest ∧ Scalar token a := by
  rw [readScalar?.eq_def] at h
  split at h
  · rename_i found hfound
    obtain ⟨⟨word, b⟩, listed, hdrop⟩ := List.exists_of_findSome?_eq_some hfound
    obtain ⟨after, hafter, hpair⟩ := Option.map_eq_some_iff.mp hdrop
    cases h
    cases hpair
    exact ⟨word.toList, eq_append_of_dropWord? hafter, .word listed⟩
  · split at h
    · obtain ⟨token, rfl, isNumber⟩ := exists_number_of_readNumber? h
      exact ⟨'-' :: token, rfl, .negative isNumber⟩
    · obtain ⟨token, rfl, isNumber⟩ := exists_number_of_readNumber? h
      exact ⟨token, rfl, .number isNumber⟩

/-! ## Characters of words and numbers -/

/-- The character can stand between quotes as it is. -/
def Unescaped (c : Char) : Prop := c ≠ '"' ∧ c ≠ '\\' ∧ ¬ c.toNat < 0x20

instance (c : Char) : Decidable (Unescaped c) := inferInstanceAs (Decidable (_ ∧ _))

theorem unescaped_of_isDigit {c : Char} (hc : c.isDigit = true) : Unescaped c := by
  have hle : (48 : UInt32) ≤ c.val := by
    simp only [Char.isDigit, Bool.and_eq_true, decide_eq_true_eq] at hc
    exact hc.1
  have hnat : 48 ≤ c.toNat := hle
  exact ⟨ne_of_isDigit hc rfl, ne_of_isDigit hc rfl, by omega⟩

theorem Number.unescaped {negative : Bool} {s : List Char} {a : Atom} (h : Number negative s a) :
    ∀ c ∈ s, Unescaped c := by
  have hdigits {digits : List Char} (h : Digits digits) : ∀ c ∈ digits, Unescaped c :=
    fun c hc => unescaped_of_isDigit (h.2 c hc)
  obtain ⟨isWhole, isFraction, isExponent⟩ := h
  refine List.forall_mem_append.mpr ⟨hdigits isWhole.isDigits,
    List.forall_mem_append.mpr ⟨?_, ?_⟩⟩
  · cases isFraction with
    | absent => simp
    | present isDigits => exact List.forall_mem_cons.mpr ⟨by decide, hdigits isDigits⟩
  · cases isExponent with
    | absent => simp
    | present isLetter hasSign isDigits =>
      refine List.forall_mem_cons.mpr ⟨by rcases isLetter with rfl | rfl <;> decide,
        List.forall_mem_append.mpr ⟨?_, hdigits isDigits⟩⟩
      cases hasSign <;> simp [Unescaped]

/-- Nothing in a word or a number has to be escaped. -/
theorem Scalar.unescaped {s : List Char} {a : Atom} (h : Scalar s a) : ∀ c ∈ s, Unescaped c := by
  cases h with
  | word listed =>
    have hwords : ∀ entry ∈ words, ∀ c ∈ entry.1.toList, Unescaped c := by
      simp [words, Unescaped]
    exact hwords _ listed
  | number isNumber => exact isNumber.unescaped
  | negative isNumber => exact List.forall_mem_cons.mpr ⟨by decide, isNumber.unescaped⟩

end FlowTemplate.Json
