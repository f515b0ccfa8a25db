import FlowTemplate.Proofs.Computation
import FlowTemplate.Proofs.Terminal.Cells
import FlowTemplate.Terminal.Markup
/-!
# Text that shows as it is

Markup is written in ordinary text, so not every text shows as it is written. One does that holds no
tag and no backslash in front of a bracket, in which no name of an emoji stands between colons, and
which has no control characters. Of a text between two tags of one style the text shows. A text that
starts with a closing tag is no markup, since there is nothing it could close.
-/

namespace FlowTemplate

open FlowTemplate.Computation

/-! ## Emoji -/

namespace Emoji

/-- A text in which nothing between colons calls for an emoji. -/
def IsFree (s : List Char) : Prop :=
  ∀ code, ':' :: code ++ [':'] <:+: s →
    (∀ c ∈ code, c ≠ ':' ∧ Text.isBlank c = false) → shown? code = none

theorem IsFree.of_isInfix {s t : List Char} (h : IsFree t) (hwithin : s <:+: t) : IsFree s :=
  fun code hcode => h code (hcode.trans hwithin)

theorem readCode_eq_some {s code rest : List Char} (h : readCode s = some (code, rest)) :
    s = code ++ ':' :: rest ∧ ∀ c ∈ code, c ≠ ':' ∧ Text.isBlank c = false := by
  unfold readCode at h
  split at h
  · rename_i heq
    cases h
    obtain ⟨hs, hcode, -⟩ := Text.of_span heq
    exact ⟨hs, fun c hc => by simpa using hcode c hc⟩
  · cases h

theorem expandCodes_of_isFree (fuel : Nat) {s : List Char} (h : IsFree s) :
    expandCodes fuel s = s := by
  induction fuel generalizing s with
  | zero => rfl
  | succ fuel ih =>
    unfold expandCodes
    split
    · rfl
    · rename_i rest
      split
      · rename_i code behind hread
        obtain ⟨rfl, hcode⟩ := readCode_eq_some hread
        have hunknown : shown? code = none := h code ⟨[], behind, by simp⟩ hcode
        have hbehind : IsFree behind := h.of_isInfix ⟨':' :: code ++ [':'], [], by simp⟩
        rw [hunknown, ih hbehind]
        simp
      · rw [ih (h.of_isInfix (List.suffix_cons _ _).isInfix)]
    · rename_i c rest _
      rw [ih (h.of_isInfix (List.suffix_cons _ _).isInfix)]

theorem expand_of_isFree {s : List Char} (h : IsFree s) : expand s = s :=
  expandCodes_of_isFree s.length h

end Emoji

/-! ## Styles -/

namespace Style

theorem exists_isColour {word : String} (h : argument? "rgb(" word.toList = none) :
    ∃ found, isColour word = .ok found := by
  unfold isColour
  dsimp only
  rw [h]
  split
  · exact ⟨true, rfl⟩
  · split
    · exact ⟨_, rfl⟩
    · exact ⟨_, rfl⟩
    · rename_i heq _ _
      cases heq
    · exact ⟨false, rfl⟩

/-- One word is a style or none, unless it gives the parts of a colour. -/
theorem exists_canonical {definition : List Char} {word : String}
    (hwords : Text.words definition = [word])
    (hparts : argument? "rgb(" (Text.lower word.toList) = none) :
    ∃ name, canonical definition = .ok name := by
  have hadd : add {} word ≠ .error .noNumber := by
    intro hadd
    unfold add at hadd
    dsimp only at hadd
    split at hadd
    · cases hadd
    · split at hadd
      · unfold set at hadd
        split at hadd <;> cases hadd
      · have hcolour : ∃ found, isColour (String.ofList (Text.lower word.toList)) = .ok found :=
          exists_isColour (by rwa [String.toList_ofList])
        obtain ⟨found, hfound⟩ := hcolour
        have hread : readColour word = if found then .ok (String.ofList (Text.lower word.toList))
            else .error .unknown := by
          unfold readColour
          rw [bind_of_ok hfound]
          rfl
        rw [hread] at hadd
        cases found <;> cases hadd
  unfold canonical
  dsimp only
  rw [hwords, addWords]
  split
  · exact ⟨_, rfl⟩
  · cases hresult : add {} word with
    | ok style => exact ⟨_, rfl⟩
    | error e =>
      cases e with
      | unknown => exact ⟨_, rfl⟩
      | noNumber => exact absurd hresult hadd

end Style

namespace Markup

/-! ## Tags -/

/-- What a tag starts with. -/
def opensTag (c : Char) : Bool := ('a' ≤ c && c ≤ 'z') || "#/@".toList.contains c

/-- A text without a tag, and without a backslash that could keep a bracket from starting one. -/
structure IsFree (s : List Char) : Prop where
  noTag : ∀ tag, '[' :: tag ++ [']'] <:+: s → (∀ c ∈ tag, c ≠ ']' ∧ c ≠ '[') →
    tag.head?.any opensTag = false
  noEscape : ¬ ['\\', '['] <:+: s

theorem IsFree.of_isInfix {s t : List Char} (h : IsFree t) (hwithin : s <:+: t) : IsFree s :=
  ⟨fun tag htag => h.noTag tag (htag.trans hwithin),
    fun hescape => h.noEscape (hescape.trans hwithin)⟩

theorem readTag_eq_some {s tag rest : List Char} (h : readTag s = some (tag, rest)) :
    s = tag ++ ']' :: rest ∧ tag.head?.any opensTag = true ∧ ∀ c ∈ tag, c ≠ ']' ∧ c ≠ '[' := by
  unfold readTag at h
  split at h
  · rename_i hopens
    split at h
    · rename_i heq
      cases h
      obtain ⟨rfl, htag, -⟩ := Text.of_span heq
      refine ⟨rfl, ?_, fun c hc => by simpa using htag c hc⟩
      cases tag with
      | nil => cases hopens
      | cons c tag => exact hopens
    · cases h
  · cases h

theorem IsFree.readTag_eq_none {inner : List Char} (h : IsFree ('[' :: inner)) :
    readTag inner = none := by
  cases hread : readTag inner with
  | none => rfl
  | some found =>
    obtain ⟨tag, rest⟩ := found
    obtain ⟨hinner, hopens, hplain⟩ := readTag_eq_some hread
    have hwithin : '[' :: tag ++ [']'] <:+: '[' :: inner := ⟨[], rest, by simp [hinner]⟩
    rw [h.noTag tag hwithin hplain] at hopens
    cases hopens

/-! ## Pieces -/

theorem consText_text (t s : List Char) : consText t [.text s] = [.text (t ++ s)] := by
  induction t with
  | nil => rfl
  | cons c t ih =>
    have hcons : consText (c :: t) [.text s] = consChar c (consText t [.text s]) := rfl
    rw [hcons, ih]
    rfl

theorem consText_pieces {fuel : Nat} {s t : List Char} (ht : t ≠ [])
    (h : s ≠ [] → pieces fuel s = [.text s]) :
    consText t (pieces fuel s) = [.text (t ++ s)] := by
  by_cases hs : s = []
  · subst hs
    cases fuel with
    | zero => exact consText_text t []
    | succ fuel =>
      -- nothing is left to put the characters before, so the last of them makes a piece
      obtain ⟨init, c, rfl⟩ := List.eq_nil_or_concat t |>.resolve_left ht
      have hlast : consText (init ++ [c]) [] = consText init [.text [c]] :=
        List.foldr_append
      simpa [pieces, hlast] using consText_text init [c]
  · rw [h hs, consText_text]

/-- Only where a tag follows can backslashes stand before a bracket. -/
theorem IsFree.slashes_eq_nil {slashes inner : List Char} (h : IsFree (slashes ++ '[' :: inner))
    (hslashes : ∀ c ∈ slashes, c = '\\') : slashes = [] := by
  rcases List.eq_nil_or_concat slashes with rfl | ⟨init, c, rfl⟩
  · rfl
  · obtain rfl : c = '\\' := hslashes c (by simp)
    exact absurd ⟨init, inner, by simp⟩ h.noEscape

/-- A text that is free of tags is one piece. -/
theorem pieces_of_isFree (fuel : Nat) {s : List Char} (h : IsFree s) (hs : s ≠ []) :
    pieces fuel s = [.text s] := by
  induction fuel generalizing s with
  | zero => rfl
  | succ fuel ih =>
    have hrest {t : List Char} (ht : t <:+ s) : t ≠ [] → pieces fuel t = [.text t] :=
      fun hne => ih (h.of_isInfix ht.isInfix) hne
    obtain ⟨slashes, behind, hspan⟩ : ∃ slashes behind, s.span (· == '\\') = (slashes, behind) :=
      ⟨_, _, rfl⟩
    obtain ⟨hsplit, hrun, -⟩ := Text.of_span hspan
    have hslashes : ∀ c ∈ slashes, c = '\\' := fun c hc => by simpa using hrun c hc
    cases s with
    | nil => exact absurd rfl hs
    | cons c rest =>
      simp only [pieces, hspan]
      split
      · rename_i inner
        obtain rfl := IsFree.slashes_eq_nil (hsplit ▸ h) hslashes
        rw [List.nil_append] at hsplit
        rw [IsFree.readTag_eq_none (hsplit ▸ h), hsplit]
        exact consText_pieces (by simp) (hrest ⟨['['], hsplit.symm⟩)
      · split
        · exact consText_pieces (List.cons_ne_nil c []) (hrest (List.suffix_cons c rest))
        · rename_i hne
          rw [hsplit]
          exact consText_pieces (by simpa using hne) (hrest ⟨slashes, hsplit.symm⟩)

theorem bareBrackets_of_isFree {s : List Char} (h : IsFree s) : bareBrackets s = s := by
  induction s using bareBrackets.induct with
  | case1 rest ih => exact absurd ⟨[], rest, rfl⟩ h.noEscape
  | case2 c rest hc ih =>
    rw [bareBrackets, ih (h.of_isInfix (List.suffix_cons _ _).isInfix)]
    exact hc
  | case3 => rfl

/-! ## Verbatim texts -/

/-- A text that shows as it is. -/
structure IsVerbatim (s : String) : Prop where
  tags : IsFree s.toList
  emoji : Emoji.IsFree s.toList
  controls : ∀ c ∈ s.toList, isControl c = false

theorem IsVerbatim.of_notMem {s : String} (hbracket : '[' ∉ s.toList) (hcolon : ':' ∉ s.toList)
    (hcontrol : s.toList.any isControl = false) : IsVerbatim s := by
  have htag : ¬ ['['] <:+: s.toList := fun h => hbracket (h.subset List.mem_cons_self)
  have hcode : ¬ [':'] <:+: s.toList := fun h => hcolon (h.subset List.mem_cons_self)
  refine ⟨⟨fun tag h => ?_, fun h => ?_⟩, fun code h => ?_,
    by simpa [List.any_eq_false] using hcontrol⟩
  · exact absurd (List.IsInfix.trans ⟨[], tag ++ [']'], rfl⟩ h) htag
  · exact absurd (List.IsInfix.trans ⟨['\\'], [], rfl⟩ h) htag
  · exact absurd (List.IsInfix.trans ⟨[], code ++ [':'], rfl⟩ h) hcode

theorem IsVerbatim.plain {s : String} (h : IsVerbatim s) : Markup.plain s = .ok s := by
  have hshown : (if s.toList.contains '[' then
      visible [] (pieces (s.toList.length + 1) s.toList) else .ok (Emoji.expand s.toList)) =
        .ok s.toList := by
    split
    · rename_i hbracket
      have hne : s.toList ≠ [] := List.ne_nil_of_mem (List.contains_iff_mem.mp hbracket)
      rw [pieces_of_isFree _ h.tags hne, visible, visible, bareBrackets_of_isFree h.tags,
        Emoji.expand_of_isFree h.emoji]
      simp [Except.map]
    · rw [Emoji.expand_of_isFree h.emoji]
  have hkept : s.toList.filter (!isControl ·) = s.toList :=
    List.filter_eq_self.mpr fun c hc => by simp [h.controls c hc]
  unfold Markup.plain
  dsimp only
  rw [hshown, Except.map, hkept, String.ofList_toList]

/-! ## Texts in a style -/

section Enclosed

variable {style : List Char} {name : String} (hname : styleName style = .ok name)
  (hspan : style.span (· != '=') = (style, []))
include hname hspan

theorem visible_opening (hslash : style.head? ≠ some '/') (tags : List OpenTag)
    (rest : List Piece) :
    visible tags (.tag style :: rest) = visible (⟨name, ""⟩ :: tags) rest := by
  rw [visible, hspan]
  split
  · rename_i heq
    rw [(Prod.mk.inj heq).1] at hslash
    exact absurd rfl hslash
  · rename_i heq
    obtain ⟨rfl, rfl⟩ := Prod.mk.inj heq
    rw [bind_of_ok hname]
    rfl

theorem visible_closing (hblank : style.all Text.isBlank = false) (tags : List OpenTag)
    (rest : List Piece) :
    visible (⟨name, ""⟩ :: tags) (.tag ('/' :: style) :: rest) = visible tags rest := by
  have hclosing : ('/' :: style).span (· != '=') = ('/' :: style, []) := by
    rw [List.span_eq_takeWhile_dropWhile, Prod.mk.injEq] at hspan ⊢
    simp [hspan]
  have hclose : close? (⟨name, ""⟩ :: tags) style = .ok (some (⟨name, ""⟩, tags)) := by
    rw [close?, if_neg (by simp [hblank]), bind_of_ok hname]
    simp only [List.find?_cons, List.eraseP_cons, beq_self_eq_true]
    rfl
  have hfine : OpenTag.isFine ⟨name, ""⟩ = true := by
    simp [OpenTag.isFine, Handler.isFine]
  rw [visible, hclosing]
  simp only
  rw [bind_of_ok hclose]
  simp only
  rw [if_pos hfine]

/-- A style around a text does not show. -/
theorem visible_enclosed (hslash : style.head? ≠ some '/')
    (hblank : style.all Text.isBlank = false) (text : List Char) :
    visible [] [.text [], .tag style, .text [], .text text, .tag ('/' :: style), .text []] =
      .ok (Emoji.expand (bareBrackets text)) := by
  have hempty : Emoji.expand (bareBrackets []) = [] := rfl
  rw [visible, visible_opening hname hspan hslash, visible, visible,
    visible_closing hname hspan hblank, visible, visible, hempty]
  simp [Except.map]

end Enclosed

/-- What shows of a text with a style around it is the text. -/
theorem plain_enclosed (markup word : String) (style text : List Char)
    (hpieces : pieces (markup.toList.length + 1) markup.toList =
      [.text [], .tag style, .text [], .text text, .tag ('/' :: style), .text []])
    (hbracket : markup.toList.contains '[' = true) (hwords : Text.words style = [word])
    (hparts : Style.argument? "rgb(" (Text.lower word.toList) = none)
    (hspan : style.span (· != '=') = (style, [])) (hslash : style.head? ≠ some '/')
    (hblank : style.all Text.isBlank = false) : plain markup =
      .ok (String.ofList ((Emoji.expand (bareBrackets text)).filter (!isControl ·))) := by
  obtain ⟨name, hname⟩ := Style.exists_canonical hwords hparts
  have hstyle : styleName style = .ok name := by rw [styleName, hname, mapError_ok]
  unfold plain
  dsimp only
  rw [if_pos hbracket, hpieces, visible_enclosed hstyle hspan hslash hblank]
  rfl

/-! ## Closing tags -/

/-- Where no tag is open, none can be closed. -/
theorem eq_none_of_close {name : List Char} {closed : Option (OpenTag × List OpenTag)}
    (h : close? [] name = .ok closed) : closed = none := by
  unfold close? at h
  split at h
  · cases h
    rfl
  · obtain ⟨style, -, hfound⟩ := bind_eq_ok h
    cases hfound
    rfl

theorem visible_unmatched {tag name behind : List Char}
    (hspan : tag.span (· != '=') = ('/' :: name, behind)) (rest : List Piece) :
    ∃ e, visible [] (.tag tag :: rest) = .error e := by
  rw [visible, hspan]
  simp only
  cases hclose : close? [] name with
  | error e => exact ⟨e, rfl⟩
  | ok closed =>
    obtain rfl := eq_none_of_close hclose
    exact ⟨_, rfl⟩

/-- A text that starts with a closing tag is no markup. -/
theorem plain_unmatched (markup : String) (tag name behind : List Char) (rest : List Piece)
    (hbracket : markup.toList.contains '[' = true)
    (hpieces : pieces (markup.toList.length + 1) markup.toList = .text [] :: .tag tag :: rest)
    (hspan : tag.span (· != '=') = ('/' :: name, behind)) : ∃ e, plain markup = .error e := by
  obtain ⟨e, he⟩ := visible_unmatched hspan rest
  refine ⟨e, ?_⟩
  unfold plain
  dsimp only
  rw [if_pos hbracket, hpieces, visible, he]
  rfl

end Markup

end FlowTemplate
