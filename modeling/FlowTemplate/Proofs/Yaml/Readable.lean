import FlowTemplate.Proofs.Yaml.Fault
/-!
# Documents that can only be malformed

A tree of nodes in which every scalar writes a value under its tag has a value or is malformed. What
else can go wrong needs a scalar that writes none, a mapping that stands for one, or a merge or such
a mapping in a tree that holds itself.
-/

namespace FlowTemplate.Yaml

/-- Whether a text under a tag can have a fault of its own. -/
def NodeTag.hasOwnFaults : NodeTag → Bool
  | .bool | .int | .float | .timestamp => true
  | _ => false

theorem NodeTag.fault_of_atom {tag : NodeTag} (h : tag.hasOwnFaults = false) {text : String}
    {fault : Fault} (hfault : tag.atom text = .error fault) : fault = .malformed := by
  cases tag with
  | bool | int | float | timestamp => cases h
  | null | str => cases hfault
  | binary =>
    have hbinary : ErrorIs (· = .malformed) (ScalarValue.binary text) := by
      unfold ScalarValue.binary
      repeat' split
      all_goals simp
    exact hbinary.map Atom.bytes fault hfault
  | _ => cases hfault; rfl

/-- Whether a text writes a value under a tag or makes the document malformed. -/
def NodeTag.reads (tag : NodeTag) (text : String) : Bool :=
  match tag.atom text with
  | .ok _ => true
  | .error fault => fault == .malformed

theorem NodeTag.fault_of_reads {tag : NodeTag} {text : String} (h : tag.reads text = true)
    {fault : Fault} (hfault : tag.atom text = .error fault) : fault = .malformed := by
  rw [reads, hfault] at h
  exact beq_iff_eq.mp h

/-- A trouble with a malformed document. -/
abbrev Trouble.isMalformed (t : Trouble) : Prop := t.fault = .malformed

/-- What is meant is there, or the document is malformed. -/
abbrev Meaning.IsSound {α : Type} (m : Meaning α) : Prop := ErrorIs Trouble.isMalformed m

namespace Meaning.IsSound

variable {α β : Type}

theorem trouble (d : Depth) : (d.trouble .malformed : Meaning α).IsSound :=
  (ErrorIs.error_iff _).mpr rfl

theorem and {a : Meaning α} {b : Meaning β} (ha : a.IsSound) (hb : b.IsSound) :
    (a.and b).IsSound := by
  cases a with
  | ok a =>
    cases b with
    | ok b => exact .ok _
    | error f => exact (ErrorIs.error_iff _).mpr (hb f rfl)
  | error e =>
    cases b with
    | ok b => exact (ErrorIs.error_iff _).mpr (ha e rfl)
    | error f =>
      unfold Meaning.and
      refine (ErrorIs.error_iff _).mpr ?_
      split
      · exact hb f rfl
      · exact ha e rfl

end Meaning.IsSound

namespace Depth

/-- The keys that are remembered were read, or the document is malformed. -/
def IsSound (d : Depth) : Prop := ∀ entry ∈ d.lone, Meaning.IsSound entry.2.1

theorem isSound_inside {d : Depth} (h : d.IsSound) : d.inside.IsSound := by
  unfold inside
  split <;> exact h

end Depth

namespace Node

/-- Whether every entry of a mapping is one of its own: none is merged into it or stands for it. -/
def statesAll (entries : List (Node × Node)) : Bool :=
  entries.all fun (k, _) => k.tag != .merge && k.tag != .value

/-- Whether a node itself can only be malformed. A tree may hold itself, or it may have merges and
mappings that stand for scalars. -/
def isReadable (merges : Bool) : Node → Bool
  | .scalar tag text => tag.reads text
  | .mapping tag entries => !tag.hasOwnFaults && (merges || statesAll entries)
  | .again _ => !merges
  | _ => true

variable {merges : Bool}

theorem isSound_keyOf (d : Depth) {m : Meaning Value} (h : m.IsSound) : (keyOf d m).IsSound := by
  unfold keyOf
  split
  · exact .ok _
  · exact .trouble d
  · rename_i e
    exact .ite (Meaning.IsSound.trouble d) ((ErrorIs.error_iff _).mpr (h e rfl))

theorem isSound_joined {merged own : Meaning (List (Atom × Value))} (hmerged : merged.IsSound)
    (hown : own.IsSound) : (joined merged own).IsSound := (hmerged.and hown).map _

mutual

theorem isSound_scalarText (own : List Nat) : ∀ node : Node,
    node.everywhere (isReadable true) = true → ErrorIs (· = .malformed) (scalarText own node)
  | .scalar tag text, _ => by
    rw [scalarText]
    exact .ok _
  | .sequence tag items, _ => by
    simp [scalarText]
  | .mapping tag entries, h => by
    simp only [everywhere, Bool.and_eq_true] at h
    rw [scalarText]
    exact isSound_standIn own entries h.2
  | .anchored n node, h => by
    simp only [everywhere, Bool.and_eq_true] at h
    rw [scalarText]
    exact isSound_scalarText (n :: own) node h.2
  | .again n, h => by cases h

theorem isSound_standIn (own : List Nat) : ∀ entries : List (Node × Node),
    everywhereEntries (isReadable true) entries = true →
      ErrorIs (· = .malformed) (scalarText.standIn own entries)
  | [], _ => by
    simp [scalarText.standIn]
  | (k, v) :: rest, h => by
    simp only [everywhereEntries, Bool.and_eq_true] at h
    rw [scalarText.standIn]
    split
    · exact isSound_scalarText own v h.1.2
    · exact isSound_standIn own rest h.2

end

theorem tag_of_statesAll {k v : Node} {rest : List (Node × Node)}
    (h : statesAll ((k, v) :: rest) = true) : k.tag ≠ .merge ∧ k.tag ≠ .value := by
  simp only [statesAll, List.all_cons, Bool.and_eq_true, bne_iff_ne] at h
  exact h.1

theorem statesAll_tail {entry : Node × Node} {rest : List (Node × Node)}
    (h : statesAll (entry :: rest) = true) : statesAll rest = true := by
  simp only [statesAll, List.all_cons, Bool.and_eq_true] at h ⊢
  exact h.2

/-- Without an entry that stands for a mapping it is no text. -/
theorem standIn_of_statesAll (own : List Nat) {entries : List (Node × Node)}
    (h : statesAll entries = true) : scalarText.standIn own entries = .error .malformed := by
  induction entries with
  | nil => rw [scalarText.standIn]
  | cons entry rest ih =>
    rw [scalarText.standIn, if_neg (by simpa using (tag_of_statesAll h).2)]
    exact ih (statesAll_tail h)

theorem isSound_standInAtom (d : Depth) {tag : NodeTag} (htag : tag.hasOwnFaults = false)
    {node : Node} (h : ErrorIs (· = .malformed) (scalarText d.own node)) :
    (standInAtom d tag node).IsSound := by
  unfold standInAtom
  split
  · rename_i fault hfault
    rw [h fault hfault]
    exact .trouble d
  · split
    · rename_i htime
      rw [beq_iff_eq.mp htime] at htag
      cases htag
    · split
      · exact .ok _
      · rename_i fault hfault
        rw [NodeTag.fault_of_atom htag hfault]
        exact .trouble d

theorem isSound_standInAtom_mapping (d : Depth) {tag : NodeTag} {entries : List (Node × Node)}
    (hnode : (mapping tag entries).isReadable merges = true)
    (h : everywhereEntries (isReadable merges) entries = true) :
    (standInAtom d tag (.mapping tag entries)).IsSound := by
  simp only [isReadable, Bool.and_eq_true, Bool.not_eq_true'] at hnode
  refine isSound_standInAtom d hnode.1 ?_
  rw [scalarText]
  cases merges with
  | true => exact isSound_standIn d.own entries h
  | false =>
    rw [standIn_of_statesAll d.own hnode.2]
    simp

/-- The entries of a mapping are there if what they state and what is merged into them is. -/
theorem isSound_entriesAt {d : Depth} (hd : d.IsSound) {entries : List (Node × Node)}
    (hlone : ∀ d : Depth, d.IsSound → ∀ entry ∈ loneAt d entries, Meaning.IsSound entry.2.1)
    (hown : ∀ d : Depth, d.IsSound → (ownAt d entries).IsSound)
    (hmerged : ∀ d : Depth, d.IsSound → (mergedAt d entries).IsSound) :
    (entriesAt d entries).IsSound := by
  rw [entriesAt]
  dsimp only
  split
  · exact .trouble d
  · have hinner : ({ d with
        texts := standInNumbers entries ++ d.texts
        lone := loneAt { d with texts := standInNumbers entries ++ d.texts } entries ++ d.lone } :
        Depth).IsSound := by
      intro entry hentry
      rcases List.mem_append.mp hentry with hentry | hentry
      · exact hlone { d with texts := standInNumbers entries ++ d.texts } hd entry hentry
      · exact hd entry hentry
    exact isSound_joined (hmerged _ hinner) (hown _ hinner)

mutual

theorem isSound_valueAt (d : Depth) (hd : d.IsSound) : ∀ node : Node,
    node.everywhere (isReadable merges) = true → (valueAt d node).IsSound
  | .scalar tag text, h => by
    simp only [everywhere, isReadable] at h
    have hatom (fault : Fault) (hfault : tag.atom text = .error fault) : fault = .malformed :=
      NodeTag.fault_of_reads h hfault
    cases tag with
    | shortForm name =>
      rw [valueAt]
      exact .ok _
    | list | map | orderedMap | pairs | set =>
      rw [valueAt]
      exact .trouble _
    | value =>
      rw [valueAt]
      exact .ite (.ok _) (Meaning.IsSound.trouble d)
    | _ =>
      simp only [valueAt]
      split
      · exact .ok _
      · rename_i fault hfault
        rw [hatom fault hfault]
        exact .trouble d
  | .sequence tag items, h => by
    simp only [everywhere, Bool.and_eq_true] at h
    cases tag with
    | shortForm name =>
      rw [valueAt]
      exact (isSound_itemsAt d.list.atOnceInside hd items h.2).map _
    | list =>
      rw [valueAt]
      exact (isSound_itemsAt d.list.inside (Depth.isSound_inside hd) items h.2).map _
    | orderedMap | pairs =>
      rw [valueAt]
      exact (isSound_pairsAt d.list.inside (Depth.isSound_inside hd) items h.2).map _
    | _ =>
      simp only [valueAt]
      exact .trouble _
  | .mapping tag entries, h => by
    simp only [everywhere, Bool.and_eq_true] at h
    have hstates : merges = true ∨ statesAll entries = true := by
      have hnode := h.1
      simp only [isReadable, Bool.and_eq_true, Bool.or_eq_true] at hnode
      exact hnode.2
    have hentries : ∀ d : Depth, d.IsSound → (entriesAt d entries).IsSound := fun d hd =>
      isSound_entriesAt hd (fun d hd => isSound_loneAt d hd entries h.2)
        (fun d hd => isSound_ownAt d hd entries hstates h.2)
        fun d hd => isSound_mergedAt d hd entries hstates h.2
    cases tag with
    | shortForm name =>
      rw [valueAt]
      exact (hentries d.atOnceInside hd).map _
    | map | set =>
      rw [valueAt]
      exact (hentries d.inside (Depth.isSound_inside hd)).map _
    | list | orderedMap | pairs | merge | value | unknown =>
      simp only [valueAt]
      exact .trouble _
    | _ =>
      simp only [valueAt]
      exact isSound_standInAtom_mapping d h.1 h.2
  | .anchored n node, h => by
    simp only [everywhere, Bool.and_eq_true] at h
    rw [valueAt]
    exact (isSound_valueAt (d.numbered n) hd node h.2).map _
  | .again n, _ => by
    rw [valueAt]
    exact .ite (Meaning.IsSound.trouble d) (.ok _)

theorem isSound_itemsAt (d : Depth) (hd : d.IsSound) : ∀ items : List Node,
    everywhereItems (isReadable merges) items = true → (itemsAt d items).IsSound
  | [], _ => by
    rw [itemsAt]
    exact .ok _
  | node :: rest, h => by
    simp only [everywhereItems, Bool.and_eq_true] at h
    rw [itemsAt]
    exact ((isSound_valueAt d hd node h.1).and (isSound_itemsAt d hd rest h.2)).map _

theorem isSound_pairsAt (d : Depth) (hd : d.IsSound) : ∀ items : List Node,
    everywhereItems (isReadable merges) items = true → (pairsAt d items).IsSound
  | [], _ => by
    rw [pairsAt]
    exact .ok _
  | node :: rest, h => by
    simp only [everywhereItems, Bool.and_eq_true] at h
    rw [pairsAt]
    exact ((isSound_pairAt d hd node h.1).and (isSound_pairsAt d hd rest h.2)).map _

theorem isSound_pairAt (d : Depth) (hd : d.IsSound) : ∀ node : Node,
    node.everywhere (isReadable merges) = true → (pairAt d node).IsSound
  | .anchored n node, h => by
    simp only [everywhere, Bool.and_eq_true] at h
    rw [pairAt]
    exact isSound_pairAt d hd node h.2
  | .mapping tag [(k, v)], h => by
    simp only [everywhere, everywhereEntries, Bool.and_eq_true] at h
    rw [pairAt]
    exact ((isSound_valueAt d hd k h.2.1.1).and (isSound_valueAt d hd v h.2.1.2)).map _
  | .again n, _ => by
    rw [pairAt]
    split
    · rename_i key number hlookup
      obtain ⟨before, after, heq, -⟩ := List.lookup_eq_some_iff.mp hlookup
      have hkey : Meaning.IsSound key := hd (n, key, number) (by simp [heq])
      exact .ite (Meaning.IsSound.trouble d) (hkey.map _)
    · exact .trouble d
  | .scalar _ _, _ | .sequence _ _, _ | .mapping _ [], _ | .mapping _ (_ :: _ :: _), _ => by
    simp only [pairAt]
    exact .trouble d

theorem isSound_loneAt (d : Depth) (hd : d.IsSound) : ∀ entries : List (Node × Node),
    everywhereEntries (isReadable merges) entries = true →
      ∀ entry ∈ loneAt d entries, Meaning.IsSound entry.2.1
  | [(k, .anchored number node)], h => by
    simp only [everywhereEntries, Bool.and_eq_true] at h
    rw [loneAt]
    intro entry hentry
    obtain ⟨holder, -, rfl⟩ := List.mem_map.mp hentry
    exact isSound_valueAt d hd k h.1.1
  | [], _ | [(_, .scalar _ _)], _ | [(_, .sequence _ _)], _ | [(_, .mapping _ _)], _
  | [(_, .again _)], _ | _ :: _ :: _, _ => by
    simp [loneAt]

theorem isSound_ownAt (d : Depth) (hd : d.IsSound) : ∀ entries : List (Node × Node),
    (merges = true ∨ statesAll entries = true) →
    everywhereEntries (isReadable merges) entries = true → (ownAt d entries).IsSound
  | [], _, _ => by
    rw [ownAt]
    exact .ok _
  | (k, v) :: rest, hstates, h => by
    simp only [everywhereEntries, Bool.and_eq_true] at h
    have hrest := isSound_ownAt d hd rest (hstates.imp_right statesAll_tail) h.2
    rw [ownAt]
    split
    · exact hrest
    · refine ((Meaning.IsSound.and ?_ (isSound_valueAt d hd v h.1.2)).and hrest).map _
      split
      · rename_i hvalue
        rcases hstates with rfl | hstates
        · exact isSound_keyOf d (isSound_standInAtom d rfl (isSound_scalarText d.own k h.1.1))
        · exact absurd hvalue (by simpa using (tag_of_statesAll hstates).2)
      · exact isSound_keyOf d (isSound_valueAt d hd k h.1.1)

theorem isSound_mergedAt (d : Depth) (hd : d.IsSound) : ∀ entries : List (Node × Node),
    (merges = true ∨ statesAll entries = true) →
    everywhereEntries (isReadable merges) entries = true → (mergedAt d entries).IsSound
  | [], _, _ => by
    rw [mergedAt]
    exact .ok _
  | (k, v) :: rest, hstates, h => by
    simp only [everywhereEntries, Bool.and_eq_true] at h
    have hrest := isSound_mergedAt d hd rest (hstates.imp_right statesAll_tail) h.2
    rw [mergedAt]
    split
    · rename_i hmerge
      rcases hstates with hmerges | hstates
      · exact ((isSound_sourceAt d hd hmerges v h.1.2).and hrest).map _
      · exact absurd hmerge (by simpa using (tag_of_statesAll hstates).1)
    · exact hrest

theorem isSound_sourceAt (d : Depth) (hd : d.IsSound) (hmerges : merges = true) : ∀ node : Node,
    node.everywhere (isReadable merges) = true → (sourceAt d node).IsSound
  | .scalar tag text, _ => by
    simp only [sourceAt]
    exact .trouble d
  | .sequence tag items, h => by
    simp only [everywhere, Bool.and_eq_true] at h
    rw [sourceAt]
    exact isSound_sourcesAt d.merging hd hmerges items h.2
  | .mapping tag entries, h => by
    simp only [everywhere, Bool.and_eq_true] at h
    rw [sourceAt]
    exact isSound_joined
      (isSound_mergedAt (d.merging.stating (ownAt d.merging entries)) hd entries (.inl hmerges) h.2)
      (isSound_ownAt d.merging hd entries (.inl hmerges) h.2)
  | .anchored n node, h => by
    simp only [everywhere, Bool.and_eq_true] at h
    rw [sourceAt]
    exact isSound_sourceAt (d.numbered n) hd hmerges node h.2
  | .again n, h => by
    rw [hmerges] at h
    cases h

theorem isSound_sourcesAt (d : Depth) (hd : d.IsSound) (hmerges : merges = true) :
    ∀ items : List Node, everywhereItems (isReadable merges) items = true →
      (sourcesAt d items).IsSound
  | [], _ => by
    rw [sourcesAt]
    exact .ok _
  | node :: rest, h => by
    simp only [everywhereItems, Bool.and_eq_true] at h
    rw [sourcesAt]
    exact ((isSound_sourceAt d hd hmerges node h.1).and
      (isSound_sourcesAt d hd hmerges rest h.2)).map _

end

end Node

end FlowTemplate.Yaml
