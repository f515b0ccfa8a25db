import FlowTemplate.Load
import FlowTemplate.Proofs.Yaml.ShortForm
/-!
# What can be wrong with a YAML text

Nearly everything that can be wrong with a YAML text makes it malformed. The other faults have few
causes: nodes that are nested too deep, an escape beyond the last code point, a scalar that writes no
value under its tag, and a merge that leads back to where it began. They are found by going through
all that reads a text, from characters to tokens, to nodes and to values, and asking each part which
errors it may end with.
-/

namespace FlowTemplate.Yaml

/-! ## Errors of one kind -/

/-- Every error that something may end with is of one kind. -/
def ErrorIs {ε α : Type} (kind : ε → Prop) (x : Except ε α) : Prop := ∀ e, x = .error e → kind e

namespace ErrorIs

variable {ε ε' α β : Type} {kind : ε → Prop}

@[simp]
theorem ok (a : α) : ErrorIs kind (.ok a : Except ε α) := by
  intro e h
  cases h

@[simp]
theorem pure (a : α) : ErrorIs kind (Pure.pure a : Except ε α) := ok a

@[simp]
theorem error_iff (e : ε) : ErrorIs kind (.error e : Except ε α) ↔ kind e :=
  ⟨fun h => h e rfl, fun h _ he => Except.error.inj he ▸ h⟩

@[simp]
theorem throw_iff (e : ε) : ErrorIs kind (throw e : Except ε α) ↔ kind e := error_iff e

theorem bind {x : Except ε α} {f : α → Except ε β} (hx : ErrorIs kind x)
    (hf : ∀ a, ErrorIs kind (f a)) : ErrorIs kind (x >>= f) := by
  cases x with
  | error e => exact (error_iff e).mpr (hx e rfl)
  | ok a => exact hf a

theorem map {x : Except ε α} (h : ErrorIs kind x) (f : α → β) : ErrorIs kind (x.map f) := by
  cases x with
  | error e => exact (error_iff e).mpr (h e rfl)
  | ok a => exact ok _

theorem ite {p : Prop} [Decidable p] {x y : Except ε α} (hx : ErrorIs kind x)
    (hy : ErrorIs kind y) : ErrorIs kind (if p then x else y) := by
  split
  · exact hx
  · exact hy

end ErrorIs

/-! ## From characters to tokens -/

/-- The faults that can show while a text is cut into tokens. -/
def Fault.isOfText : Fault → Bool
  | .malformed | .unreadable | .hugeCode => true
  | _ => false

/-- What is read from characters has a fault of the text at most. -/
abbrev FaultOfText {α : Type} (x : Except Fault α) : Prop := ErrorIs (·.isOfText = true) x

@[simp]
theorem isOfText_malformed : Fault.malformed.isOfText = true := rfl

theorem faultOfText_malformed {α : Type} : FaultOfText (throw .malformed : Except Fault α) := by
  simp

/-- Only what the text must hold here is asked. -/
theorem faultOfText_unless (p : Prop) [Decidable p] :
    FaultOfText (if p then throw .malformed else pure PUnit.unit : Except Fault PUnit) := by
  split <;> simp

namespace Token

theorem faultOfText_readName (c : Cursor) : FaultOfText (readName c) := by
  unfold readName
  repeat' split
  all_goals simp

theorem faultOfText_escapedBytes (fuel : Nat) (c : Cursor) :
    FaultOfText (escapedBytes fuel c) := by
  induction fuel generalizing c with
  | zero => exact .ok _
  | succ fuel ih =>
    unfold escapedBytes
    split
    · exact .ok _
    · dsimp only
      split
      · exact faultOfText_malformed
      · split
        · exact faultOfText_malformed
        · exact .bind (ih _) fun _ => .ok _

theorem faultOfText_tagText (fuel : Nat) (c : Cursor) : FaultOfText (tagText fuel c) := by
  induction fuel generalizing c with
  | zero => exact .ok _
  | succ fuel ih =>
    unfold tagText
    split
    · refine .bind (faultOfText_escapedBytes _ _) fun read => ?_
      dsimp only
      split
      · exact faultOfText_malformed
      · exact .bind (ih _) fun _ => .ok _
    · split
      · exact .bind (ih _) fun _ => .ok _
      · exact .ok _
    · exact .ok _

theorem faultOfText_readTagText (c : Cursor) : FaultOfText (readTagText c) := by
  unfold readTagText
  split
  · exact faultOfText_malformed
  · exact .bind (faultOfText_tagText _ _) fun _ => .ok _

theorem faultOfText_readHandle (c : Cursor) : FaultOfText (readHandle c) := by
  unfold readHandle
  dsimp only
  split
  · exact faultOfText_malformed
  · exact .ite (.ok _) (.ite (.ok _) faultOfText_malformed)

theorem faultOfText_readTag (c : Cursor) : FaultOfText (readTag c) := by
  have hend (written : WrittenTag) (c : Cursor) : FaultOfText (if endsPart c.peek then
      pure (written, c) else throw .malformed : Except Fault (WrittenTag × Cursor)) :=
    .ite (.ok _) faultOfText_malformed
  unfold readTag
  dsimp only
  split
  · refine .bind (faultOfText_readTagText _) fun read => ?_
    split
    · exact faultOfText_malformed
    · exact hend _ _
  · split
    · exact hend _ _
    · have hrest (handle : String) (c : Cursor) : FaultOfText (do
          let read ← readTagText c
          if endsPart read.2.peek then return (WrittenTag.mk (some handle) read.1, read.2)
          else throw .malformed) := .bind (faultOfText_readTagText c) fun _ => hend _ _
      exact .ite (.bind (faultOfText_readHandle _) fun _ => hrest _ _) (hrest _ _)

theorem faultOfText_readNumber (c : Cursor) : FaultOfText (readNumber c) := by
  unfold readNumber
  exact .ite faultOfText_malformed (.ok _)

theorem faultOfText_readVersion (c : Cursor) : FaultOfText (readVersion c) := by
  unfold readVersion
  refine .bind (faultOfText_readNumber _) fun read => ?_
  dsimp only
  split
  · exact faultOfText_malformed
  · exact .bind (faultOfText_readNumber _) fun _ => .ite (.ok _) faultOfText_malformed

theorem faultOfText_readHandleMeaning (c : Cursor) : FaultOfText (readHandleMeaning c) := by
  unfold readHandleMeaning
  refine .bind (faultOfText_readHandle _) fun read => ?_
  dsimp only
  split
  · exact faultOfText_malformed
  · exact .bind (faultOfText_readTagText _) fun _ => .ite (.ok _) faultOfText_malformed

theorem faultOfText_restOfLine (c : Cursor) : FaultOfText c.restOfLine := by
  unfold Cursor.restOfLine
  exact .ite (.ok _) faultOfText_malformed

theorem faultOfText_readDirective (c : Cursor) : FaultOfText (readDirective c) := by
  unfold readDirective
  dsimp only
  split
  · exact faultOfText_malformed
  · have hrest (found : Directive) (c : Cursor) :
        FaultOfText (do return (found, ← c.restOfLine)) :=
      .bind (faultOfText_restOfLine c) fun _ => .ok _
    split
    · exact .bind (faultOfText_readVersion _) fun _ => hrest _ _
    · exact .bind (faultOfText_readHandleMeaning _) fun _ => hrest _ _
    · exact hrest _ _

end Token

namespace Scalar

theorem faultOfText_quotedBreaks (fuel : Nat) (c : Cursor) :
    FaultOfText (quotedBreaks fuel c) := by
  induction fuel generalizing c with
  | zero => exact .ok _
  | succ fuel ih =>
    unfold quotedBreaks
    split
    · exact faultOfText_malformed
    · dsimp only
      split
      · exact .ok _
      · exact .bind (ih _) fun _ => .ok _

/-- An escape can name a code beyond the last one. -/
theorem faultOfText_charsOfCode (n : Nat) : FaultOfText (charsOfCode n) := by
  unfold charsOfCode
  repeat' split
  all_goals simp [Fault.isOfText]

theorem faultOfText_escaped (c : Cursor) : FaultOfText (escaped c) := by
  unfold escaped
  split
  · exact faultOfText_malformed
  · split
    · exact .ok _
    · dsimp only
      split
      · exact faultOfText_malformed
      · split
        · exact faultOfText_malformed
        · exact .bind (faultOfText_charsOfCode _) fun _ => .ok _
    · split
      · exact faultOfText_quotedBreaks _ _
      · exact faultOfText_malformed

theorem faultOfText_quotedGap (c : Cursor) : FaultOfText (quotedGap c) := by
  unfold quotedGap
  dsimp only
  split
  · exact .bind (faultOfText_quotedBreaks _ _) fun _ => .ok _
  · exact .ite faultOfText_malformed (.ok _)

theorem faultOfText_quotedFrom (quote : Char) (fuel : Nat) (c : Cursor) :
    FaultOfText (quotedFrom quote fuel c) := by
  induction fuel generalizing c with
  | zero => exact faultOfText_malformed
  | succ fuel ih =>
    have hrest (part : List Char) (c : Cursor) : FaultOfText (do
        let read ← quotedFrom quote fuel c
        return (part ++ read.1, read.2)) := .bind (ih c) fun _ => .ok _
    unfold quotedFrom
    dsimp only
    split
    · exact faultOfText_malformed
    · exact .ite (hrest _ _) (hrest _ _)
    · refine .ite (.ok _) (.ite ?_ (.ite ?_ (hrest _ _)))
      · exact .bind (faultOfText_quotedGap _) fun _ => hrest _ _
      · exact .bind (faultOfText_escaped _) fun _ => hrest _ _

theorem faultOfText_quoted (quote : Char) (c : Cursor) : FaultOfText (quoted quote c) :=
  .bind (faultOfText_quotedFrom quote _ _) fun _ => .ok _

theorem faultOfText_header (c : Cursor) : FaultOfText (header c) := by
  unfold header
  dsimp only
  refine .bind ?_ fun _ => ?_
  · repeat' split
    all_goals simp
  · exact .ite (.bind (Token.faultOfText_restOfLine _) fun _ => .ok _) faultOfText_malformed

theorem faultOfText_block (folded : Bool) (outer : Int) (c : Cursor) :
    FaultOfText (block folded outer c) :=
  .bind (faultOfText_header _) fun _ => .ok _

end Scalar

namespace Scanner

variable (s : Scanner)

theorem faultOfText_dropStale : FaultOfText s.dropStale := by
  unfold dropStale
  exact .ite faultOfText_malformed (.ok _)

theorem faultOfText_dropSpot : FaultOfText s.dropSpot := by
  unfold dropSpot
  split
  · exact .ite faultOfText_malformed (.ok _)
  · exact .ok _

theorem faultOfText_saveSpot : FaultOfText s.saveSpot := by
  unfold saveSpot
  exact .ite (.bind (faultOfText_dropSpot s) fun _ => .ok _) (.ok _)

theorem faultOfText_fetchDirective : FaultOfText s.fetchDirective :=
  .bind (faultOfText_dropSpot _) fun s =>
    .bind (Token.faultOfText_readDirective s.cursor) fun _ => .ok _

/-- Where brackets are not open, some tokens must stand where a key may begin. -/
theorem faultOfText_here {next : Except Fault Scanner} (h : FaultOfText next) :
    FaultOfText (if (!s.inFlow && !s.keyAllowed) = true then throw .malformed else next) :=
  .ite faultOfText_malformed h

theorem faultOfText_fetchBlockEntry : FaultOfText s.fetchBlockEntry :=
  faultOfText_here s (.bind (faultOfText_dropSpot _) fun _ => .ok _)

theorem faultOfText_fetchKey : FaultOfText s.fetchKey :=
  faultOfText_here s (.bind (faultOfText_dropSpot _) fun _ => .ok _)

theorem faultOfText_fetchValue : FaultOfText s.fetchValue := by
  unfold fetchValue
  split
  · exact .ok _
  · exact faultOfText_here s (.ok _)

theorem faultOfText_fetchWord {read : Cursor → Except Fault (Token × Cursor)}
    (h : ∀ c, FaultOfText (read c)) : FaultOfText (s.fetchWord read) :=
  .bind (faultOfText_saveSpot s) fun s => .bind (h s.cursor) fun _ => .ok _

theorem faultOfText_fetchBlockScalar (folded : Bool) : FaultOfText (s.fetchBlockScalar folded) :=
  .bind (faultOfText_dropSpot s) fun s =>
    .bind (Scalar.faultOfText_block folded s.indent s.cursor) fun _ => .ok _

theorem faultOfText_fetchAt : FaultOfText s.fetchAt := by
  have hspot (s : Scanner) (f : Scanner → Scanner) : FaultOfText (do return f (← s.dropSpot)) :=
    .bind (faultOfText_dropSpot s) fun _ => .ok _
  have hname := fun c => Token.faultOfText_readName c
  unfold fetchAt
  dsimp only
  split
  · exact hspot _ _
  · refine .ite (faultOfText_fetchDirective s) (.ite (hspot _ _) (.ite (hspot _ _) (.ite ?_
      (.ite ?_ (.ite (hspot _ _) (.ite (hspot _ _) (.ite (hspot _ _) (.ite ?_ (.ite ?_ (.ite ?_
      (.ite ?_ (.ite ?_ (.ite ?_ (.ite ?_ (.ite ?_ (.ite ?_ (.ite ?_
      faultOfText_malformed)))))))))))))))))
    · exact .bind (faultOfText_saveSpot s) fun _ => .ok _
    · exact .bind (faultOfText_saveSpot s) fun _ => .ok _
    · exact faultOfText_fetchBlockEntry s
    · exact faultOfText_fetchKey s
    · exact faultOfText_fetchValue s
    · exact faultOfText_fetchWord s fun c => (hname c).map _
    · exact faultOfText_fetchWord s fun c => (hname c).map _
    · exact faultOfText_fetchWord s fun c => (Token.faultOfText_readTag c).map _
    · exact faultOfText_fetchBlockScalar s false
    · exact faultOfText_fetchBlockScalar s true
    · exact faultOfText_fetchWord s fun c => (Scalar.faultOfText_quoted _ c).map _
    · exact .bind (faultOfText_saveSpot s) fun _ => .ok _

theorem faultOfText_fetch : FaultOfText s.fetch :=
  .bind (faultOfText_dropStale _) fun _ => faultOfText_fetchAt _

end Scanner

namespace TokenStream

theorem isOfText_of_fetchAll {fuel : Nat} {s : Scanner} {fault : Fault}
    (h : (fetchAll fuel s).fault = some fault) : fault.isOfText = true := by
  induction fuel generalizing s with
  | zero =>
    cases h
    rfl
  | succ fuel ih =>
    unfold fetchAll at h
    split at h
    · rename_i e he
      cases h
      exact Scanner.faultOfText_fetch s _ he
    · split at h
      · cases h
      · exact ih h

/-- Of the faults that are not malformed text only escapes beyond the last code show here. -/
theorem isOfText_of_ofString {text : String} {fault : Fault}
    (h : (ofString text).fault = some fault) : fault.isOfText = true := by
  unfold ofString at h
  dsimp only at h
  split at h
  · exact isOfText_of_fetchAll h
  · cases h
    rfl

end TokenStream

/-! ## From tokens to nodes -/

namespace NodeReader

variable {α β : Type}

/-- A reader that fails as the text is malformed or as its tokens end, and that leaves it as it was
how they end. -/
def KeepsEnding (x : NodeReader α) : Prop :=
  ∀ p, ErrorIs (fun e => e = .malformed ∨ e = p.ending) (x p) ∧
    ∀ a q, x p = .ok (a, q) → q.ending = p.ending

namespace KeepsEnding

theorem pure (a : α) : KeepsEnding (Pure.pure a) := fun p =>
  ⟨.ok _, fun _ _ h => by cases h; rfl⟩

theorem malformed : KeepsEnding (throw .malformed : NodeReader α) := by
  refine fun p => ⟨(ErrorIs.error_iff _).mpr (.inl rfl), fun a q h => ?_⟩
  cases h

theorem bind {x : NodeReader α} {f : α → NodeReader β} (hx : KeepsEnding x)
    (hf : ∀ a, KeepsEnding (f a)) : KeepsEnding (x >>= f) := by
  intro p
  obtain ⟨herror, hending⟩ := hx p
  have hrun : (x >>= f) p = x p >>= fun pair => f pair.1 pair.2 := rfl
  rw [hrun]
  cases hxp : x p with
  | error e =>
    refine ⟨(ErrorIs.error_iff _).mpr (herror e hxp), fun b q h => ?_⟩
    cases h
  | ok pair =>
    obtain ⟨a, q⟩ := pair
    have hq : q.ending = p.ending := hending a q hxp
    rw [← hq]
    exact hf a q

theorem ite {c : Prop} [Decidable c] {x y : NodeReader α} (hx : KeepsEnding x)
    (hy : KeepsEnding y) : KeepsEnding (if c then x else y) := by
  split
  · exact hx
  · exact hy

/-- A step that is taken only in one of two cases. -/
theorem bindIf {c : Prop} [Decidable c] {x : NodeReader Unit} {f : Unit → NodeReader β}
    (hx : KeepsEnding x) (hf : ∀ a, KeepsEnding (f a)) :
    KeepsEnding (if c then x >>= f else f ()) :=
  ite (bind hx hf) (hf ())

theorem bindEither {c : Prop} [Decidable c] {x y : NodeReader α} {f : α → NodeReader β}
    (hx : KeepsEnding x) (hy : KeepsEnding y) (hf : ∀ a, KeepsEnding (f a)) :
    KeepsEnding (if c then x >>= f else y >>= f) :=
  ite (bind hx hf) (bind hy hf)

/-- What has been declared does not matter to how the tokens end. -/
theorem modify {f : Progress → Progress} (h : ∀ p, (f p).ending = p.ending) :
    KeepsEnding (modify f : NodeReader Unit) := fun p =>
  ⟨.ok _, fun _ _ hq => by cases hq; exact h p⟩

theorem get : KeepsEnding (get : NodeReader Progress) := fun p =>
  ⟨.ok _, fun _ _ h => by cases h; rfl⟩

theorem peek : KeepsEnding peek := by
  intro p
  unfold NodeReader.peek
  split
  · exact ⟨.ok _, fun _ _ h => by cases h; rfl⟩
  · refine ⟨(ErrorIs.error_iff _).mpr (.inr rfl), fun a q h => ?_⟩
    cases h

theorem drop : KeepsEnding drop := modify fun _ => rfl

theorem nextIn (tokens : List Token) : KeepsEnding (nextIn tokens) := bind peek fun _ => pure _

theorem expect (t : Token) : KeepsEnding (expect t) := bind peek fun _ => ite drop malformed

theorem takeIf (t : Token) : KeepsEnding (takeIf t) :=
  bind peek fun _ => ite (bind drop fun _ => pure _) (pure _)

theorem resolveTag (t : WrittenTag) : KeepsEnding (resolveTag t) := by
  unfold NodeReader.resolveTag
  split
  · exact pure _
  · refine bind get fun p => ?_
    split
    · exact pure _
    · exact malformed

theorem readProperties : KeepsEnding readProperties := by
  have hresolved (anchor : Option String) (t : WrittenTag) : KeepsEnding (do
      return (anchor, some (← NodeReader.resolveTag t))) := bind (resolveTag t) fun _ => pure _
  unfold NodeReader.readProperties
  refine bind (bind peek fun t => ?_) fun first => bind (bind peek fun t => ?_) fun tag => ?_
  · split
    · exact bind drop fun _ => pure _
    · exact pure _
  · split
    · exact bind drop fun _ => pure _
    · exact pure _
  · refine ite (bind (bind peek fun t => ?_) fun anchor => ?_) ?_ <;> split
    · exact bind drop fun _ => pure _
    · exact pure _
    all_goals first | exact hresolved _ _ | exact pure _

theorem declare (anchor : Option String) (what : Anchored) : KeepsEnding (declare anchor what) := by
  unfold NodeReader.declare
  split
  · exact pure _
  · exact bind get fun p => ite (bind malformed fun _ => modify fun _ => rfl) (modify fun _ => rfl)

theorem settle (anchor : Option String) (node : Node) : KeepsEnding (settle anchor node) := by
  unfold NodeReader.settle
  split
  · exact pure _
  · exact bind (modify fun _ => rfl) fun _ => pure _

theorem resolveAlias (name : String) : KeepsEnding (resolveAlias name) := by
  refine bind get fun p => ?_
  split
  · exact pure _
  · exact pure _
  · exact malformed

theorem number (anchor : Option String) (within : Bool) : KeepsEnding (number anchor within) :=
  ite (bind get fun _ => bind (modify fun _ => rfl) fun _ => pure _) (pure _)

theorem declareAround (anchor : Option String) (number : Option Nat) :
    KeepsEnding (declareAround anchor number) := by
  unfold NodeReader.declareAround
  split
  · exact declare _ _
  · exact pure _

/-- The readers of nodes that take so many steps at most. -/
structure Nodes (fuel : Nat) : Prop where
  node : ∀ within place, KeepsEnding (readNode within place fuel)
  nodeBefore : ∀ stops within place, KeepsEnding (readNodeBefore stops within place fuel)
  blockItems : ∀ within, KeepsEnding (readBlockItems within fuel)
  looseItems : ∀ within, KeepsEnding (readLooseItems within fuel)
  blockEntries : ∀ within, KeepsEnding (readBlockEntries within fuel)
  flowItems : ∀ within first, KeepsEnding (readFlowItems within first fuel)
  flowEntries : ∀ within first, KeepsEnding (readFlowEntries within first fuel)

section

variable {fuel : Nat} (h : Nodes fuel)
include h

theorem succ_node (within : Bool) (place : Place) :
    KeepsEnding (readNode within place (fuel + 1)) := by
  have hscalar (anchor : Option String) (node : Node) : KeepsEnding (do
      NodeReader.declare anchor (.read node)
      return node) := bind (declare _ _) fun _ => pure _
  unfold readNode
  refine bind peek fun t => ?_
  split
  · exact bind drop fun _ => resolveAlias _
  · refine bind readProperties fun properties => bind (number _ _) fun n => bind peek fun t => ?_
    split
    · exact bind drop fun _ => hscalar _ _
    · exact bind drop fun _ => bind (declareAround _ _) fun _ => bind (h.flowItems _ _) fun _ =>
        settle _ _
    · exact bind drop fun _ => bind (declareAround _ _) fun _ => bind (h.flowEntries _ _) fun _ =>
        settle _ _
    · refine ite ?_ (ite ?_ (ite ?_ (ite (hscalar _ _) malformed)))
      · exact bind drop fun _ => bind (declareAround _ _) fun _ => bind (h.blockItems _) fun _ =>
          settle _ _
      · exact bind drop fun _ => bind (declareAround _ _) fun _ => bind (h.blockEntries _) fun _ =>
          settle _ _
      · exact bind (declareAround _ _) fun _ => bind (h.looseItems _) fun _ => settle _ _

theorem succ_nodeBefore (stops : List Token) (within : Bool) (place : Place) :
    KeepsEnding (readNodeBefore stops within place (fuel + 1)) :=
  bind (nextIn stops) fun _ => ite (pure _) (h.node _ _)

theorem succ_blockItems (within : Bool) : KeepsEnding (readBlockItems within (fuel + 1)) :=
  bind (takeIf _) fun _ => ite
    (bind (h.nodeBefore _ _ _) fun _ => bind (h.blockItems _) fun _ => pure _)
    (bind (expect _) fun _ => pure _)

theorem succ_looseItems (within : Bool) : KeepsEnding (readLooseItems within (fuel + 1)) :=
  bind (takeIf _) fun _ => ite
    (bind (h.nodeBefore _ _ _) fun _ => bind (h.looseItems _) fun _ => pure _) (pure _)

theorem succ_blockEntries (within : Bool) : KeepsEnding (readBlockEntries within (fuel + 1)) := by
  have hrest (key value : Node) : KeepsEnding (do
      return (key, value) :: (← readBlockEntries within fuel)) :=
    bind (h.blockEntries _) fun _ => pure _
  refine bind (takeIf _) fun _ => ite (bind (h.nodeBefore _ _ _) fun key => ?_)
    (bind (expect _) fun _ => pure _)
  exact bind (takeIf _) fun _ => bindEither (h.nodeBefore _ _ _) (pure _) fun _ => hrest _ _

theorem succ_flowItems (within first : Bool) :
    KeepsEnding (readFlowItems within first (fuel + 1)) := by
  have hrest (item : Node) : KeepsEnding (do
      return item :: (← readFlowItems within false fuel)) :=
    bind (h.flowItems _ _) fun _ => pure _
  refine bind (takeIf _) fun _ => ite (pure _) (bindIf (expect _) fun _ =>
    bind (takeIf _) fun _ => ite ?_ ?_)
  · refine bind (number _ _) fun n => bind (h.nodeBefore _ _ _) fun key => ?_
    exact bind (takeIf _) fun _ => bindEither (h.nodeBefore _ _ _) (pure _) fun _ => hrest _
  · exact bind (takeIf _) fun _ => ite (pure _) (bind (h.node _ _) fun _ => hrest _)

theorem succ_flowEntries (within first : Bool) :
    KeepsEnding (readFlowEntries within first (fuel + 1)) := by
  have hrest (key value : Node) : KeepsEnding (do
      return (key, value) :: (← readFlowEntries within false fuel)) :=
    bind (h.flowEntries _ _) fun _ => pure _
  refine bind (takeIf _) fun _ => ite (pure _) (bindIf (expect _) fun _ =>
    bind (takeIf _) fun _ => ite (bind (h.nodeBefore _ _ _) fun key => ?_) ?_)
  · exact bind (takeIf _) fun _ => bindEither (h.nodeBefore _ _ _) (pure _) fun _ => hrest _ _
  · exact bind (takeIf _) fun _ => ite (pure _) (bind (h.node _ _) fun _ => hrest _ _)

end

theorem nodes (fuel : Nat) : Nodes fuel := by
  induction fuel with
  | zero => exact ⟨fun _ _ => malformed, fun _ _ _ => malformed, fun _ => malformed,
      fun _ => malformed, fun _ => malformed, fun _ _ => malformed, fun _ _ => malformed⟩
  | succ fuel ih => exact ⟨succ_node ih, succ_nodeBefore ih, succ_blockItems ih,
      succ_looseItems ih, succ_blockEntries ih, succ_flowItems ih, succ_flowEntries ih⟩

theorem readDirectives (version : Bool) (fuel : Nat) (handles : List (String × String)) :
    KeepsEnding (readDirectives version fuel handles) := by
  induction fuel generalizing version handles with
  | zero => exact malformed
  | succ fuel ih =>
    refine bind peek fun t => ?_
    split
    · refine bind drop fun _ => ?_
      split
      · exact ite malformed (ih _ _)
      · exact ite malformed (ih _ _)
      · exact ih _ _
    · exact pure _

theorem dropDocumentEnds (fuel : Nat) : KeepsEnding (dropDocumentEnds fuel) := by
  induction fuel with
  | zero => exact pure _
  | succ fuel ih => exact bind (takeIf _) fun _ => ite ih (pure _)

theorem readDocument (fuel : Nat) : KeepsEnding (readDocument fuel) := by
  have hend (node : Node) : KeepsEnding (do
      NodeReader.dropDocumentEnds fuel
      NodeReader.expect .streamEnd
      return some node) :=
    bind (dropDocumentEnds _) fun _ => bind (expect _) fun _ => pure _
  have hnode (bare : Bool) : KeepsEnding (do
      let node ← if bare then Pure.pure .empty else readNode false .block fuel
      NodeReader.dropDocumentEnds fuel
      NodeReader.expect .streamEnd
      return some node) := ite (hend _) (bind ((nodes fuel).node _ _) fun _ => hend _)
  unfold NodeReader.readDocument
  refine bind peek fun t => ?_
  dsimp only
  split
  all_goals
    refine bind (pure _) fun opening => bindIf (dropDocumentEnds _) fun _ =>
      bind (nextIn _) fun _ => ite (pure _) (bindEither (readDirectives _ _ _) (pure _)
        fun handles => bind (modify fun _ => rfl) fun _ => bindIf (expect _) fun _ =>
          bind peek fun t => ?_)
    split <;> exact bind (pure _) fun bare => hnode bare

end KeepsEnding

end NodeReader

/-- Composing nodes adds no fault of its own but that the text is malformed. -/
theorem Node.fault_of_ofTokens {stream : TokenStream} {fault : Fault}
    (h : Node.ofTokens stream = .error fault) :
    fault = .malformed ∨ stream.fault = some fault := by
  have herror := ((NodeReader.KeepsEnding.readDocument (4 * stream.tokens.length + 8))
    { tokens := stream.tokens, ending := stream.fault.getD .malformed }).1.map (·.1) fault h
  rcases herror with rfl | rfl
  · exact .inl rfl
  · cases stream.fault with
    | none => exact .inl rfl
    | some e => exact .inr rfl

end FlowTemplate.Yaml
