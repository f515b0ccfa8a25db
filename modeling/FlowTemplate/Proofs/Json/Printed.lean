import FlowTemplate.Json.Printer
import FlowTemplate.Proofs.Json.Grammar
import Mathlib.Data.List.Chain
import Mathlib.Tactic.SplitIfs
/-!
# Printed tokens

An integer is printed as a number, and a text as what stands between quotes: each escape, and each
character that needs none, writes the character it is for. In ASCII a character beyond the basic
plane is printed as the halves of its surrogate pair. So two halves that come to stand one after
the other are read back as one character, and nothing else is lost.
-/

namespace FlowTemplate.Json

/-! ## Escapes -/

theorem hexValue?_hexDigit : ∀ d < 16, hexValue? (Literal.hexDigit d) = some d := by
  decide

/-- The four digits of a code point are read back. -/
theorem exists_hexQuad {n : Nat} (hn : n < 0x10000) : ∃ a b c d,
    unicodeEscape n = ['\\', 'u', a, b, c, d] ∧ hexQuad? a b c d = some n := by
  refine ⟨_, _, _, _, rfl, ?_⟩
  have hdigit (m : Nat) : hexValue? (Literal.hexDigit (m % 16)) = some (m % 16) :=
    hexValue?_hexDigit _ (Nat.mod_lt m (by decide))
  simp only [hexQuad?, hdigit, Option.some.injEq]
  omega

/-- A code point of the basic plane is written by its escape. -/
theorem body_unicodeEscape {n : Nat} (hn : n < 0x10000) {raw text : List Char} (h : Body raw text)
    (halone : Text.isHighSurrogate n = true → ¬ LowNext raw) :
    Body (unicodeEscape n ++ raw) (Text.ofCodePoint n ++ text) := by
  obtain ⟨a, b, c, d, hescape, hquad⟩ := exists_hexQuad hn
  rw [hescape]
  exact .unit hquad halone h

theorem toNat_ofNat {n : Nat} (hn : n < 0xD800) : (Char.ofNat n).toNat = n := by
  rw [Char.ofNat, dif_pos (.inl hn)]
  rfl

/-- A code point that is no half and not the mark is written as its character. -/
theorem ofCodePoint_eq {n : Nat} (hhalf : n < 0xD800 ∨ 0xDFFF < n) (hmark : n ≠ 0xFDD0) :
    Text.ofCodePoint n = [Char.ofNat n] := by
  have hsurrogate : Text.isSurrogate n = false := by
    simp only [Text.isSurrogate, Text.isHighSurrogate, Text.isLowSurrogate, Bool.or_eq_false_iff,
      Bool.and_eq_false_iff, decide_eq_false_iff_not]
    omega
  have hplain : (n == Text.mark.toNat) = false := beq_eq_false_iff_ne.mpr hmark
  rw [Text.ofCodePoint, hsurrogate, hplain]
  rfl

theorem isHighSurrogate_of_lt {n : Nat} (hn : n < 0x80) : Text.isHighSurrogate n = false := by
  simp [Text.isHighSurrogate]
  omega

/-- How a character is printed: by the letter of its escape, by its code, or as it is. -/
inductive IsEscaped (c : Char) : List Char → Prop
  | short {letter : Char} (escape : shortEscape? letter = some c) : IsEscaped c ['\\', letter]
  | code (control : c.toNat < 0x20) : IsEscaped c (unicodeEscape c.toNat)
  | plain (quote : c ≠ '"') (slash : c ≠ '\\') (control : ¬ c.toNat < 0x20) : IsEscaped c [c]

theorem isEscaped_escapedChar (c : Char) : IsEscaped c (escapedChar c) := by
  unfold escapedChar
  split_ifs with hquote hslash hfeed hreturn htab hback hform hcontrol
  · exact .short (by rw [beq_iff_eq.mp hquote]; rfl)
  · exact .short (by rw [beq_iff_eq.mp hslash]; rfl)
  · exact .short (by rw [beq_iff_eq.mp hfeed]; rfl)
  · exact .short (by rw [beq_iff_eq.mp hreturn]; rfl)
  · exact .short (by rw [beq_iff_eq.mp htab]; rfl)
  · exact .short (by rw [beq_iff_eq.mp hback]; rfl)
  · exact .short (by rw [beq_iff_eq.mp hform]; rfl)
  · exact .code hcontrol
  · exact .plain (by simpa using hquote) (by simpa using hslash) hcontrol

theorem IsEscaped.body {c : Char} {escaped raw text : List Char} (hc : IsEscaped c escaped)
    (h : Body raw text) : Body (escaped ++ raw) (c :: text) := by
  cases hc with
  | short escape => exact .short escape h
  | code control =>
    have hnarrow : c.toNat < 0x10000 := by omega
    have hhigh : Text.isHighSurrogate c.toNat = false := isHighSurrogate_of_lt (by omega)
    have hbody := body_unicodeEscape hnarrow h fun hc => by rw [hhigh] at hc; cases hc
    rwa [ofCodePoint_eq (by omega) (by omega), Char.ofNat_toNat] at hbody
  | plain quote slash control => exact .plain quote slash control h

theorem body_escaped (s : List Char) : Body (s.flatMap escapedChar ++ ['"']) s := by
  induction s with
  | nil => exact .close
  | cons c s ih =>
    rw [List.flatMap_cons, List.append_assoc]
    exact (isEscaped_escapedChar c).body ih

/-- No upper half stands right before a lower one. -/
def HalvesApart (codes : List Nat) : Prop :=
  codes.IsChain fun a b => ¬ (Text.isHighSurrogate a = true ∧ Text.isLowSurrogate b = true)

instance (codes : List Nat) : Decidable (HalvesApart codes) :=
  inferInstanceAs (Decidable (codes.IsChain _))

/-- The escape of a code point beyond the basic plane is that of its halves. -/
theorem joinSurrogates_halves {n : Nat} (hwide : 0x10000 ≤ n) (hn : n < 0x110000) :
    Text.isHighSurrogate (0xD800 + (n - 0x10000) / 0x400) = true ∧
    Text.isLowSurrogate (0xDC00 + (n - 0x10000) % 0x400) = true ∧
    Text.joinSurrogates (0xD800 + (n - 0x10000) / 0x400) (0xDC00 + (n - 0x10000) % 0x400) = n := by
  have hq : (n - 0x10000) / 0x400 < 0x400 := by omega
  have hr : (n - 0x10000) % 0x400 < 0x400 := by omega
  refine ⟨?_, ?_, ?_⟩
  · rw [Text.isHighSurrogate, Bool.and_eq_true, decide_eq_true_eq, decide_eq_true_eq]
    omega
  · rw [Text.isLowSurrogate, Bool.and_eq_true, decide_eq_true_eq, decide_eq_true_eq]
    omega
  · unfold Text.joinSurrogates
    omega

/-- A code point printed in ASCII is read back, unless it completes or begins a pair. -/
theorem body_escapedCode {n : Nat} (hn : n < 0x110000) {raw text : List Char} (h : Body raw text)
    (halone : Text.isHighSurrogate n = true → ¬ LowNext raw) :
    Body (escapedCode n ++ raw) (Text.ofCodePoint n ++ text) := by
  rw [escapedCode]
  split_ifs with hascii
  · rw [ofCodePoint_eq (by omega) (by omega)]
    exact (isEscaped_escapedChar _).body h
  · rw [wideEscape]
    split_ifs with hwide
    · exact body_unicodeEscape hwide h halone
    · obtain ⟨hhigh, hlow, hjoin⟩ := joinSurrogates_halves (Nat.le_of_not_lt hwide) hn
      obtain ⟨a, b, c, d, hescape, hquad⟩ :=
        exists_hexQuad (show 0xD800 + (n - 0x10000) / 0x400 < 0x10000 by omega)
      obtain ⟨a', b', c', d', hescape', hquad'⟩ :=
        exists_hexQuad (show 0xDC00 + (n - 0x10000) % 0x400 < 0x10000 by omega)
      rw [ofCodePoint_eq (by omega) (by omega), hescape, hescape']
      have hpair := Body.pair hquad hhigh hquad' hlow h
      rwa [hjoin] at hpair

/-- Only a lower half is printed as the escape of one. -/
theorem isLowSurrogate_of_lowNext {n : Nat} (hn : n < 0x110000) {raw : List Char}
    (h : LowNext (escapedCode n ++ raw)) : Text.isLowSurrogate n = true := by
  have hquads {m : Nat} (hm : m < 0x10000) {tail : List Char}
      (h : LowNext (unicodeEscape m ++ tail)) : Text.isLowSurrogate m = true := by
    obtain ⟨a, b, c, d, hescape, hquad⟩ := exists_hexQuad hm
    obtain ⟨a', b', c', d', low, rest, htext, hquad', hlow⟩ := h
    rw [hescape] at htext
    simp only [List.cons_append, List.nil_append, List.cons.injEq, true_and] at htext
    obtain ⟨rfl, rfl, rfl, rfl, -⟩ := htext
    cases hquad.symm.trans hquad'
    exact hlow
  have hchar {c : Char} {escaped : List Char} (hc : IsEscaped c escaped)
      (h : LowNext (escaped ++ raw)) :
      c.toNat < 0x20 ∧ LowNext (unicodeEscape c.toNat ++ raw) := by
    cases hc with
    | short escape =>
      -- The letter `u` is no short escape.
      obtain ⟨a, b, c', d, low, rest, htext, -⟩ := h
      rw [(List.cons.inj (List.cons.inj htext).2).1] at escape
      cases escape
    | code control => exact ⟨control, h⟩
    | plain quote slash control =>
      obtain ⟨a, b, c', d, low, rest, htext, -⟩ := h
      exact absurd (List.cons.inj htext).1 slash
  rw [escapedCode] at h
  split_ifs at h with hascii
  · obtain ⟨hcontrol, h⟩ := hchar (isEscaped_escapedChar _) h
    rw [toNat_ofNat (by omega)] at h
    exact hquads (by omega) h
  · rw [wideEscape] at h
    split_ifs at h with hwide
    · exact hquads hwide h
    · -- A wide character is printed with its upper half in front.
      obtain ⟨hhigh, -⟩ := joinSurrogates_halves (Nat.le_of_not_lt hwide) hn
      rw [List.append_assoc] at h
      have hlow := hquads (by omega) h
      rw [isLowSurrogate_of_isHighSurrogate hhigh] at hlow
      cases hlow

/-- What is printed of halves that stand apart is read back. -/
theorem body_escapedCodes {codes : List Nat} (hcodes : ∀ n ∈ codes, n < 0x110000)
    (happart : HalvesApart codes) :
    Body (codes.flatMap escapedCode ++ ['"']) (Text.ofCodes codes) := by
  induction codes with
  | nil => exact .close
  | cons n codes ih =>
    obtain ⟨hn, hcodes⟩ := List.forall_mem_cons.mp hcodes
    rw [List.flatMap_cons, List.append_assoc, Text.ofCodes, List.flatMap_cons]
    refine body_escapedCode hn (ih hcodes happart.tail) fun hhigh hlow => ?_
    cases codes with
    | nil =>
      obtain ⟨a, b, c, d, low, rest, htext, -⟩ := hlow
      cases htext
    | cons m codes =>
      rw [List.flatMap_cons, List.append_assoc] at hlow
      have hm := isLowSurrogate_of_lowNext (hcodes m List.mem_cons_self) hlow
      exact (List.isChain_cons_cons.mp happart).1 ⟨hhigh, hm⟩

theorem toNat_lt (c : Char) : c.toNat < 0x110000 := by
  rcases c.valid with h | h
  · exact Nat.lt_trans h (by decide)
  · exact h.2

theorem codes_lt (s : List Char) : ∀ n ∈ Text.codes s, n < 0x110000 := by
  fun_induction Text.codes s with
  | case1 => exact fun n hn => absurd hn List.not_mem_nil
  | case2 c => exact List.forall_mem_singleton.mpr (toNat_lt c)
  | case3 c d rest hmark ih =>
    refine List.forall_mem_cons.mpr ⟨?_, ih⟩
    split
    · exact toNat_lt Text.mark
    · exact Nat.lt_of_le_of_lt (Nat.sub_le d.toNat Text.surrogateShift) (toNat_lt d)
  | case4 c d rest hmark ih => exact List.forall_mem_cons.mpr ⟨toNat_lt c, ih⟩

/-- The text can be printed in a style without a loss: in ASCII, halves have to stand apart. The
characters are those of a row of code points. -/
def IsPrintable (style : Style) (s : String) : Prop :=
  style.asciiOnly = true → Text.ofCodes (Text.codes s.toList) = s.toList ∧
    HalvesApart (Text.codes s.toList)

instance (style : Style) (s : String) : Decidable (IsPrintable style s) :=
  inferInstanceAs (Decidable (_ → _))

theorem exists_body_of_isPrintable {style : Style} {s : String} (h : IsPrintable style s) :
    ∃ raw, quoted style.asciiOnly s = '"' :: raw ∧ Body raw s.toList := by
  rw [quoted]
  cases hstyle : style.asciiOnly with
  | false => exact ⟨_, rfl, body_escaped s.toList⟩
  | true =>
    obtain ⟨hcoded, happart⟩ := h hstyle
    refine ⟨_, rfl, ?_⟩
    have hbody := body_escapedCodes (codes_lt s.toList) happart
    rwa [hcoded] at hbody

/-! ## Integers -/

theorem digits_toDigits (n : Nat) : Digits (Nat.toDigits 10 n) :=
  ⟨Nat.toDigits_ne_nil, fun _ hc => Nat.isDigit_of_mem_toDigits (by omega) (by omega) hc⟩

theorem digitsValue_toDigits (n : Nat) : digitsValue (Nat.toDigits 10 n) = n := by
  have hvalue : Nat.ofDigitChars 10 (Nat.toDigits 10 n) 0 = n := Nat.ofDigitChars_ten_toDigits
  rw [Nat.ofDigitChars_eq_foldl] at hvalue
  simpa [digitsValue, Nat.mul_comm] using hvalue

/-- The first digit of a number other than zero is not zero. -/
theorem toDigits_head {n : Nat} (hn : 0 < n) :
    ∃ c rest, Nat.toDigits 10 n = c :: rest ∧ c ≠ '0' := by
  induction n using Nat.strongRecOn with
  | ind n ih =>
    by_cases hsmall : n < 10
    · refine ⟨n.digitChar, [], Nat.toDigits_of_lt_base hsmall, ?_⟩
      rw [ne_eq, Nat.digitChar_eq_zero]
      omega
    · obtain ⟨c, rest, hdigits, hc⟩ := ih (n / 10) (by omega) (by omega)
      refine ⟨c, rest ++ [(n % 10).digitChar], ?_, hc⟩
      rw [Nat.toDigits_of_base_le (by omega) (by omega), hdigits, List.cons_append]

theorem whole_toDigits (n : Nat) : Whole (Nat.toDigits 10 n) := by
  by_cases hn : n = 0
  · subst n
    exact .zero
  · obtain ⟨c, rest, htext, hc⟩ := toDigits_head (Nat.pos_of_ne_zero hn)
    rw [htext]
    exact .digits hc (htext ▸ digits_toDigits n)

/-- An integer is printed as a number. -/
theorem scalar_integer (i : Int) : Scalar (integer i) (.int i) := by
  have hnumber (negative : Bool) : Number negative (Nat.toDigits 10 i.natAbs)
      (.int (if negative then -(i.natAbs : Int) else i.natAbs)) := by
    have h : Number negative _ _ := .parts (whole_toDigits i.natAbs) .absent .absent
    simpa only [List.append_nil, numberAtom, digitsValue_toDigits] using h
  rw [integer]
  split_ifs with hi
  · have h := hnumber true
    rw [if_pos rfl, show -(i.natAbs : Int) = i by omega] at h
    exact .negative h
  · have h := hnumber false
    rw [if_neg (by decide), show (i.natAbs : Int) = i by omega] at h
    exact .number h

end FlowTemplate.Json
