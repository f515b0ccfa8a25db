import FlowTemplate.Lint.Graph
import FlowTemplate.Proofs.Compile.Parameters
import FlowTemplate.Proofs.Json.Limit
/-!
# Definitions that are texts

A definition that is a text goes into the template without its line breaks. If it is JSON, what is
deployed is JSON too and means the same, so that what the linter says about the one it says about
the other.
-/

/-! ## Texts without their line breaks

No token holds a line break: in a text of the grammar line breaks are blanks between tokens. So the
text without them writes the same value, however tokens come to stand next to each other, and what
it has too much of is the same.
-/

namespace FlowTemplate.Json

/-- The text without carriage returns and line feeds. -/
def unbroken (s : List Char) : List Char := s.filter fun c => c != '\r' && c != '\n'

theorem unbroken_append (s t : List Char) : unbroken (s ++ t) = unbroken s ++ unbroken t :=
  List.filter_append s t

theorem unbroken_cons {c : Char} (hc : (c != '\r' && c != '\n') = true) (s : List Char) :
    unbroken (c :: s) = c :: unbroken s :=
  List.filter_cons_of_pos hc

theorem unbroken_blanks {blanks : List Char} (h : Blanks blanks) : Blanks (unbroken blanks) :=
  fun c hc => h c (List.mem_filter.mp hc).1

theorem unbroken_of_not_control {s : List Char} (h : ∀ c ∈ s, ¬ c.toNat < 0x20) :
    unbroken s = s := by
  refine List.filter_eq_self.mpr fun c hc => ?_
  rw [Bool.and_eq_true, bne_iff_ne, bne_iff_ne]
  refine ⟨?_, ?_⟩
  all_goals
    rintro rfl
    exact h _ hc (by decide)

theorem Body.unbroken_eq {raw text : List Char} (h : Body raw text) : unbroken raw = raw :=
  unbroken_of_not_control h.not_control

theorem Scalar.unbroken_eq {s : List Char} {a : Atom} (h : Scalar s a) : unbroken s = s :=
  unbroken_of_not_control fun c hc => (h.unescaped c hc).2.2

/-! ### The value of a text -/

theorem unbroken_nil : unbroken [] = [] := rfl

-- Characters that are no line breaks stay where they are.
attribute [local simp] unbroken_append unbroken_cons unbroken_nil

/-- Without its line breaks a text writes the same piece. -/
theorem Writes.unbroken {s : List Char} {piece : Piece} (h : Writes s piece) :
    Writes (unbroken s) piece := by
  induction h with
  | text body => simpa [body.unbroken_eq] using Writes.text body
  | scalar token => simpa [token.unbroken_eq] using Writes.scalar token
  | noItems hblanks => simpa using Writes.noItems (unbroken_blanks hblanks)
  | list hblanks parts ih => simpa using Writes.list (unbroken_blanks hblanks) ih
  | noMembers hblanks => simpa using Writes.noMembers (unbroken_blanks hblanks)
  | map hblanks parts ih => simpa using Writes.map (unbroken_blanks hblanks) ih
  | lastItem value hblanks ih => simpa using Writes.lastItem ih (unbroken_blanks hblanks)
  | item value hbefore hafter more ih ihmore =>
    simpa using Writes.item ih (unbroken_blanks hbefore) (unbroken_blanks hafter) ihmore
  | member body hbefore hafter value ih =>
    simpa [body.unbroken_eq] using
      Writes.member body (unbroken_blanks hbefore) (unbroken_blanks hafter) ih
  | lastMember first hblanks ih => simpa using Writes.lastMember ih (unbroken_blanks hblanks)
  | moreMembers first hbefore hafter more ih ihmore =>
    simpa using Writes.moreMembers ih (unbroken_blanks hbefore) (unbroken_blanks hafter) ihmore

theorem IsJson.unbroken {s : List Char} {v : Value} (h : IsJson s v) : IsJson (unbroken s) v := by
  obtain ⟨before, text, after, rfl, hbefore, hafter, value⟩ := h
  exact ⟨_, _, _, by simp, unbroken_blanks hbefore, unbroken_blanks hafter, value.unbroken⟩

/-! ### The excess of a text -/

/-- Two texts are gone through alike. -/
def ScansAlike (s t : List Char) (behind : Nat → Nat) : Prop :=
  ∃ found, Scans s found behind ∧ Scans t found behind

section Alike

variable {s s' t t' before before' after after' : List Char}

theorem ScansAlike.container (h : ScansAlike s s' fun depth => depth - 1) {c : Char}
    (hc : c = '[' ∨ c = '\x7b') (hafter : Blanks after) (hafter' : Blanks after') :
    ScansAlike (c :: (after ++ s)) (c :: (after' ++ s')) id := by
  obtain ⟨found, hs, hs'⟩ := h
  exact ⟨_, hs.container hc hafter, hs'.container hc hafter'⟩

theorem scansAlike_closing {c : Char} (hc : c = ']' ∨ c = '\x7d') :
    ScansAlike [c] [c] fun depth => depth - 1 :=
  ⟨_, scans_closing hc, scans_closing hc⟩

theorem ScansAlike.close (h : ScansAlike s s' id) {c : Char} (hc : c = ']' ∨ c = '\x7d')
    (hbefore : Blanks before) (hbefore' : Blanks before') :
    ScansAlike (s ++ (before ++ [c])) (s' ++ (before' ++ [c])) fun depth => depth - 1 := by
  obtain ⟨found, hs, hs'⟩ := h
  exact ⟨found, hs.close hc hbefore, hs'.close hc hbefore'⟩

theorem ScansAlike.comma (h : ScansAlike s s' id) (hmore : ScansAlike t t' fun depth => depth - 1)
    (hbefore : Blanks before) (hafter : Blanks after) (hbefore' : Blanks before')
    (hafter' : Blanks after') :
    ScansAlike (s ++ (before ++ ',' :: (after ++ t))) (s' ++ (before' ++ ',' :: (after' ++ t')))
      fun depth => depth - 1 := by
  obtain ⟨found, hs, hs'⟩ := h
  obtain ⟨more, ht, ht'⟩ := hmore
  exact ⟨_, hs.comma ht hbefore hafter, hs'.comma ht' hbefore' hafter'⟩

theorem ScansAlike.member (h : ScansAlike s s' id) {raw key : List Char} (body : Body raw key)
    (hbefore : Blanks before) (hafter : Blanks after) (hbefore' : Blanks before')
    (hafter' : Blanks after') :
    ScansAlike ('"' :: (raw ++ (before ++ ':' :: (after ++ s))))
      ('"' :: (raw ++ (before' ++ ':' :: (after' ++ s')))) id := by
  obtain ⟨found, hs, hs'⟩ := h
  exact ⟨found, hs.member body hbefore hafter, hs'.member body hbefore' hafter'⟩

end Alike

theorem Writes.scansAlike {s : List Char} {piece : Piece} (h : Writes s piece) :
    ScansAlike s (Json.unbroken s) piece.depthBehind := by
  induction h with
  | text body =>
    have hscans := scans_nil.string body
    rw [List.append_nil] at hscans
    rw [unbroken_cons rfl, body.unbroken_eq]
    exact ⟨_, hscans, hscans⟩
  | scalar token =>
    obtain ⟨found, hscans⟩ := token.scans
    rw [token.unbroken_eq]
    exact ⟨found, hscans, hscans⟩
  | noItems hblanks =>
    rw [unbroken_cons rfl, unbroken_append]
    exact (scansAlike_closing (.inl rfl)).container (.inl rfl) hblanks (unbroken_blanks hblanks)
  | list hblanks parts ih =>
    rw [unbroken_cons rfl, unbroken_append]
    exact ih.container (.inl rfl) hblanks (unbroken_blanks hblanks)
  | noMembers hblanks =>
    rw [unbroken_cons rfl, unbroken_append]
    exact (scansAlike_closing (.inr rfl)).container (.inr rfl) hblanks (unbroken_blanks hblanks)
  | map hblanks parts ih =>
    rw [unbroken_cons rfl, unbroken_append]
    exact ih.container (.inr rfl) hblanks (unbroken_blanks hblanks)
  | lastItem value hblanks ih =>
    rw [unbroken_append, unbroken_append]
    exact ih.close (.inl rfl) hblanks (unbroken_blanks hblanks)
  | item value hbefore hafter more ih ihmore =>
    rw [unbroken_append, unbroken_append, unbroken_cons rfl, unbroken_append]
    exact ih.comma ihmore hbefore hafter (unbroken_blanks hbefore) (unbroken_blanks hafter)
  | member body hbefore hafter value ih =>
    rw [unbroken_cons rfl, unbroken_append, body.unbroken_eq, unbroken_append, unbroken_cons rfl,
      unbroken_append]
    exact ih.member body hbefore hafter (unbroken_blanks hbefore) (unbroken_blanks hafter)
  | lastMember first hblanks ih =>
    rw [unbroken_append, unbroken_append]
    exact ih.close (.inr rfl) hblanks (unbroken_blanks hblanks)
  | moreMembers first hbefore hafter more ih ihmore =>
    rw [unbroken_append, unbroken_append, unbroken_cons rfl, unbroken_append]
    exact ih.comma ihmore hbefore hafter (unbroken_blanks hbefore) (unbroken_blanks hafter)

theorem IsJson.firstExcess_unbroken {s : List Char} {v : Value} (h : IsJson s v) :
    firstExcess 0 (Json.unbroken s) = firstExcess 0 s := by
  obtain ⟨before, text, after, rfl, hbefore, hafter, value⟩ := h
  obtain ⟨found, hs, ht⟩ := value.scansAlike
  have hscan {text before after : List Char} (htext : Scans text found id) (hbefore : Blanks before)
      (hafter : Blanks after) : firstExcess 0 (before ++ (text ++ after)) = found 0 := by
    have hfollows := hafter.follows follows_nil
    have hend := firstExcess_skips hafter.not_isCounted 0 []
    rw [List.append_nil] at hfollows hend
    rw [firstExcess_skips hbefore.not_isCounted, htext 0 after hfollows, id_eq, hend]
    exact Option.or_none
  rw [unbroken_append, unbroken_append, hscan hs hbefore hafter,
    hscan ht (unbroken_blanks hbefore) (unbroken_blanks hafter)]

end FlowTemplate.Json

namespace FlowTemplate

open FlowTemplate.Computation

/-- The text is within the limits of the reader, which reads a value from it. -/
def Json.Accepts (text : String) (v : Value) : Prop :=
  Json.excess? text = none ∧ Json.parse text = .ok v

theorem Json.Accepts.withoutLineBreaks {text : String} {v : Value} (h : Json.Accepts text v) :
    Json.Accepts (DefinitionString.withoutLineBreaks text) v := by
  obtain ⟨hexcess, hparse⟩ := h
  have htext : (DefinitionString.withoutLineBreaks text).toList = Json.unbroken text.toList :=
    String.toList_ofList
  have hjson := (Json.parse_eq_ok_iff text v).mp hparse
  have hparse' : Json.parse (DefinitionString.withoutLineBreaks text) = .ok v := by
    rw [Json.parse_eq_ok_iff, htext]
    exact hjson.unbroken
  refine ⟨?_, hparse'⟩
  rw [Json.excess?_of_parse hparse', htext, hjson.firstExcess_unbroken,
    ← Json.excess?_of_parse hparse, hexcess]

/-- The report about a text is that about the value it writes. -/
theorem Lint.report_of_accepts {text : String} {v : Value} (h : Json.Accepts text v) :
    Lint.report (.str text) = .ok (Lint.definitionFindings "$" v) := by
  rw [Lint.report, Lint.excess?, h.1, Lint.findings, h.2]

namespace Machine

open Compile

/-- A machine with a text for a definition has the text without its line breaks in its entry. -/
theorem definition_of_compile_text {context : Context} {template machine : Value} {name : String}
    {s s' : Session} {compiled : CompiledMachine} {text : String}
    (htext : Machine.definition machine = .ok (.str text))
    (h : (compile context template name machine).run s = (.ok compiled, s')) :
    compiled.resource.properties.definition =
      .text (DefinitionString.withoutLineBreaks text) := by
  obtain ⟨_, built, result, -, hbuilt, hpinned, hassemble⟩ := stages_of_compile h
  have hplain : built = .plain (DefinitionString.withoutLineBreaks text) := by
    rw [definitionString, htext] at hbuilt
    cases hbuilt
    rfl
  have hresult : result = built := by
    obtain ⟨asked, -, hpinned⟩ := bind_eq_ok hpinned
    subst hplain
    cases asked <;> cases hpinned <;> rfl
  obtain ⟨parts, hassembled⟩ := assembled_of_assemble hassemble
  have hread := (read_resourceDocument_eq_ok.mp hassembled.resource).1.1
  rw [hresult, hplain] at hread
  exact (Except.ok.inj hread).symm

end Machine

end FlowTemplate
