import FlowTemplate.Yaml.Meaning
/-!
# Short forms written out

A short form has the value of the mapping that it writes, at any depth and in any container, as long
as that value is what is asked for. A merge key, an item of a list of pairs and a key that stands for
its mapping look at a node itself instead. There a short form is only a node of its kind, and
written out it is a mapping with one entry, so these places are kept clear of short forms.
-/

namespace FlowTemplate.Yaml

namespace NodeTag

def isShortForm : NodeTag → Bool
  | .shortForm _ => true
  | _ => false

/-- Whether a tag makes its node a container. -/
def isContainer : NodeTag → Bool
  | .shortForm _ | .list | .map | .orderedMap | .pairs | .set => true
  | _ => false

end NodeTag

namespace Node

/-! ## Where nodes are looked at -/

mutual

/-- Whether something holds of a node and of all nodes in it. -/
def everywhere (p : Node → Bool) : Node → Bool
  | .scalar tag text => p (.scalar tag text)
  | .sequence tag items => p (.sequence tag items) && everywhereItems p items
  | .mapping tag entries => p (.mapping tag entries) && everywhereEntries p entries
  | .anchored n node => p (.anchored n node) && everywhere p node
  | .again n => p (.again n)

def everywhereItems (p : Node → Bool) : List Node → Bool
  | [] => true
  | node :: rest => everywhere p node && everywhereItems p rest

def everywhereEntries (p : Node → Bool) : List (Node × Node) → Bool
  | [] => true
  | (k, v) :: rest => (everywhere p k && everywhere p v) && everywhereEntries p rest

end

/-- Not an alias to a node around it. -/
def isCopied : Node → Bool
  | .again _ => false
  | _ => true

def isShort (node : Node) : Bool := node.tag.isShortForm

def isNumbered : Node → Bool
  | .anchored .. => true
  | _ => false

/-- Whether something is merged into a mapping. -/
def hasMerge : Node → Bool
  | .anchored _ node => hasMerge node
  | .mapping _ entries => entries.any fun (k, _) => k.tag == .merge
  | _ => false

/-- What can be merged: neither a short form nor a sequence with one among its items. -/
def isOpenSource : Node → Bool
  | .anchored _ node => isOpenSource node
  | .sequence tag items => !tag.isShortForm && items.all fun node => !node.isShort
  | node => !node.isShort

/-- What can be an item of a list of pairs. Merging changes a mapping in place, so if an item can be
referred to, its entries depend on what has been read before. -/
def isOpenPair (node : Node) : Bool := !node.isShort && !(node.isNumbered && node.hasMerge)

mutual

/-- What can stand for a mapping: no short form, also by way of a mapping that it stands for. -/
def isOpenText : Node → Bool
  | .anchored _ node => isOpenText node
  | .mapping tag entries => !tag.isShortForm && isOpenStandIn entries
  | node => !node.isShort

def isOpenStandIn : List (Node × Node) → Bool
  | [] => true
  | (k, v) :: rest => if k.tag == .value then isOpenText v else isOpenStandIn rest

end

/-- No short form is where a node is looked at, and a key that stands for its mapping is in one
place only, since from its first reading as a key it is a text everywhere. -/
def isReadByValue : Node → Bool
  | .anchored _ node => node.tag != .value
  | .sequence tag items => !(tag == .orderedMap || tag == .pairs) || items.all isOpenPair
  | .mapping tag entries =>
    (tag.isContainer || isOpenStandIn entries)
      && entries.all fun (k, v) => k.tag != .merge || isOpenSource v
  | _ => true

end Node

/-! ## Values that agree -/

namespace Meaning

/-- Two meanings are the same value, or neither is one. -/
def Agree {α : Type} (a b : Meaning α) : Prop := a.toOption = b.toOption

variable {α β : Type}

theorem Agree.refl (a : Meaning α) : Agree a a := rfl

theorem agree_trouble (d d' : Depth) (fault fault' : Fault) :
    Agree (d.trouble fault : Meaning α) (d'.trouble fault') := rfl

theorem Agree.map {a b : Meaning α} (h : Agree a b) (f : α → β) : Agree (a.map f) (b.map f) := by
  cases a <;> cases b <;> cases h <;> rfl

theorem Agree.and {a a' : Meaning α} {b b' : Meaning β} (ha : Agree a a') (hb : Agree b b') :
    Agree (a.and b) (a'.and b') := by
  cases a <;> cases a' <;> cases ha <;> cases b <;> cases b' <;> cases hb <;> rfl

theorem toOption_keyOf (d : Depth) (a : Meaning Value) :
    (Node.keyOf d a).toOption = a.toOption.bind fun v => match v with
      | .atom a => some a
      | _ => none := by
  match a with
  | .error e =>
    rw [Node.keyOf]
    split <;> rfl
  | .ok v => cases v <;> rfl

theorem Agree.keyOf {a b : Meaning Value} (h : Agree a b) (d d' : Depth) :
    Agree (Node.keyOf d a) (Node.keyOf d' b) := by
  rw [Agree, toOption_keyOf, toOption_keyOf, h]

theorem Agree.joined {a a' b b' : Meaning (List (Atom × Value))} (ha : Agree a a')
    (hb : Agree b b') : Agree (Node.joined a b) (Node.joined a' b') :=
  (ha.and hb).map _

end Meaning

namespace Node

open Meaning

/-! ## What stays of a node -/

theorem tag_wrapLong (tag : NodeTag) (untagged otherwise : Node) :
    (wrapLong tag untagged otherwise).tag = if tag.isShortForm then .map else otherwise.tag := by
  cases tag <;> rfl

/-- Written out, a short form is a mapping; every other node keeps its tag. -/
theorem tag_desugar : ∀ node : Node,
    node.desugar.tag = if node.isShort then .map else node.tag
  | .scalar tag text => by
    cases tag with
    | shortForm name =>
      rw [desugar]
      split <;> rfl
    | _ => rfl
  | .sequence tag items => by
    rw [desugar, tag_wrapLong]
    rfl
  | .mapping tag entries => by
    rw [desugar, tag_wrapLong]
    rfl
  | .anchored n node => tag_desugar node
  | .again n => rfl

theorem tag_desugar_beq {tag : NodeTag} (hmap : tag ≠ .map) (hshort : tag.isShortForm = false)
    (node : Node) : (node.desugar.tag == tag) = (node.tag == tag) := by
  rw [tag_desugar]
  split
  · next h =>
    have hne : node.tag ≠ tag := fun heq => by
      rw [isShort, heq, hshort] at h
      cases h
    rw [beq_eq_false_iff_ne.mpr hne, beq_eq_false_iff_ne.mpr hmap.symm]
  · rfl

theorem tag_desugar_merge (node : Node) :
    (node.desugar.tag == .merge) = (node.tag == .merge) :=
  tag_desugar_beq (by decide) rfl node

theorem tag_desugar_value (node : Node) :
    (node.desugar.tag == .value) = (node.tag == .value) :=
  tag_desugar_beq (by decide) rfl node

theorem desugar_scalar (tag : NodeTag) (text : String) (h : tag.isShortForm = false) :
    (scalar tag text).desugar = .scalar tag text := by
  cases tag <;> first | rfl | cases h

theorem desugar_sequence (tag : NodeTag) (items : List Node) (h : tag.isShortForm = false) :
    (sequence tag items).desugar = .sequence tag (desugarItems items) := by
  cases tag <;> first | rfl | cases h

theorem desugar_mapping (tag : NodeTag) (entries : List (Node × Node))
    (h : tag.isShortForm = false) :
    (mapping tag entries).desugar = .mapping tag (desugarEntries entries) := by
  cases tag <;> first | rfl | cases h

/-! ## Texts that stand for mappings -/

mutual

/-- The text that stands for a mapping is not read from a short form. -/
theorem scalarText_desugar (own own' : List Nat) : ∀ node : Node,
    node.everywhere isCopied = true → node.isOpenText = true →
      scalarText own node = scalarText own' node.desugar
  | .scalar tag text, _, hopen => by
    rw [desugar_scalar tag text ((Bool.not_eq_true' _).mp hopen)]
    rfl
  | .sequence tag items, _, hopen => by
    rw [desugar_sequence tag items ((Bool.not_eq_true' _).mp hopen)]
    rfl
  | .mapping tag entries, hcopied, hopen => by
    simp only [everywhere, isOpenText, Bool.and_eq_true, Bool.not_eq_true'] at hcopied hopen
    rw [desugar_mapping tag entries hopen.1]
    exact standIn_desugar own own' entries hcopied.2 hopen.2
  | .anchored n node, hcopied, hopen => by
    simp only [everywhere, Bool.and_eq_true] at hcopied
    exact scalarText_desugar (n :: own) (n :: own') node hcopied.2 hopen
  | .again n, hcopied, _ => by cases hcopied

theorem standIn_desugar (own own' : List Nat) : ∀ entries : List (Node × Node),
    everywhereEntries isCopied entries = true → isOpenStandIn entries = true →
      scalarText.standIn own entries = scalarText.standIn own' (desugarEntries entries)
  | [], _, _ => rfl
  | (k, v) :: rest, hcopied, hopen => by
    simp only [everywhereEntries, Bool.and_eq_true] at hcopied
    rw [isOpenStandIn] at hopen
    rw [desugarEntries, scalarText.standIn, scalarText.standIn, tag_desugar_value]
    split
    · next hvalue =>
      rw [if_pos hvalue] at hopen
      exact scalarText_desugar own own' v hcopied.1.2 hopen
    · next hvalue =>
      rw [if_neg hvalue] at hopen
      exact standIn_desugar own own' rest hcopied.2 hopen

end

theorem agree_standInAtom (d d' : Depth) (tag : NodeTag) (node : Node)
    (hcopied : node.everywhere isCopied = true) (hopen : node.isOpenText = true) :
    Agree (standInAtom d tag node) (standInAtom d' tag node.desugar) := by
  rw [standInAtom, standInAtom, ← scalarText_desugar d.own d'.own node hcopied hopen]
  split
  · exact agree_trouble ..
  · split
    · exact agree_trouble ..
    · split
      · exact .refl _
      · exact agree_trouble ..

theorem isReadByValue_of_everywhere : ∀ node : Node, node.everywhere isReadByValue = true →
    node.isReadByValue = true
  | .scalar .., h | .again _, h => h
  | .sequence .., h | .mapping .., h | .anchored .., h => ((Bool.and_eq_true _ _).mp h).1

/-- A key that stands for its mapping is the text of its own node. -/
theorem isOpenText_of_value : ∀ node : Node, node.isReadByValue = true → node.tag = .value →
    node.isOpenText = true
  | .scalar _ _, _, rfl => rfl
  | .sequence _ _, _, rfl => rfl
  | .mapping _ entries, hread, rfl => by
    simp only [isReadByValue, NodeTag.isContainer, Bool.false_or, Bool.and_eq_true] at hread
    exact hread.1
  | .anchored _ node, hread, htag => absurd htag (bne_iff_ne.mp hread)

/-! ## What can be merged -/

def isMapping : Node → Bool
  | .anchored _ node => isMapping node
  | .mapping .. => true
  | _ => false

theorem isMapping_bare (node : Node) : node.bare.isMapping = node.isMapping := by
  induction node using bare.induct with
  | case1 n node ih => exact ih
  | case2 node h => rw [bare.eq_2 node h]

theorem bare_ne_anchored (node : Node) (n : Nat) (inner : Node) :
    node.bare ≠ .anchored n inner := by
  induction node using bare.induct with
  | case1 m node ih => exact ih
  | case2 node h => rw [bare.eq_2 node h]; exact h n inner

theorem isMapping_desugar : ∀ node : Node, node.isShort = false →
    node.desugar.isMapping = node.isMapping
  | .scalar tag text, h => by rw [desugar_scalar tag text h]
  | .sequence tag items, h => by
    rw [desugar_sequence tag items h]
    rfl
  | .mapping tag entries, h => by
    rw [desugar_mapping tag entries h]
    rfl
  | .anchored _ node, h => isMapping_desugar node h
  | .again _, _ => rfl

theorem isOpenSource_of_isMapping : ∀ node : Node, node.isMapping = true →
    node.isShort = false → node.isOpenSource = true
  | .mapping _ _, _, h => (Bool.not_eq_true' _).mpr h
  | .anchored _ node, hmapping, h => isOpenSource_of_isMapping node hmapping h

theorem isCopied_bare : ∀ node : Node, node.everywhere isCopied = true →
    node.bare.isCopied = true
  | .scalar .., _ | .sequence .., _ | .mapping .., _ => rfl
  | .anchored _ node, h => isCopied_bare node ((Bool.and_eq_true _ _).mp h).2
  | .again _, h => h

theorem isCopied_bare_desugar : ∀ node : Node,
    node.desugar.bare.isCopied = node.bare.isCopied
  | .scalar tag text => by
    cases tag with
    | shortForm name =>
      rw [desugar]
      split <;> rfl
    | _ => rfl
  | .sequence tag items => by cases tag <;> rfl
  | .mapping tag entries => by cases tag <;> rfl
  | .anchored _ node => isCopied_bare_desugar node
  | .again _ => rfl

/-- An item can be merged if it is a mapping that can be merged. -/
theorem badSources_cons (lists : List Nat) (node : Node) (rest : List Node)
    (hcopied : node.bare.isCopied = true) : badSources lists (node :: rest) =
      ((!node.isMapping || badSource lists node) || badSources lists rest) := by
  rw [badSources, ← isMapping_bare]
  cases hbare : node.bare with
  | again n => rw [hbare] at hcopied; cases hcopied
  | anchored n inner => exact absurd hbare (bare_ne_anchored node n inner)
  | _ => rfl

mutual

theorem badSource_desugar (lists lists' : List Nat) : ∀ node : Node,
    node.everywhere isCopied = true → node.everywhere isReadByValue = true →
      node.isOpenSource = true → badSource lists node = badSource lists' node.desugar
  | .scalar tag text, _, _, hopen => by
    rw [desugar_scalar tag text ((Bool.not_eq_true' _).mp hopen)]
    rfl
  | .sequence tag items, hcopied, hread, hopen => by
    simp only [everywhere, isOpenSource, Bool.and_eq_true, Bool.not_eq_true'] at hcopied hread hopen
    rw [desugar_sequence tag items hopen.1]
    exact badSources_desugar lists lists' items hcopied.2 hread.2 hopen.2
  | .mapping tag entries, hcopied, hread, hopen => by
    simp only [everywhere, Bool.and_eq_true] at hcopied hread
    rw [desugar_mapping tag entries ((Bool.not_eq_true' _).mp hopen)]
    rw [isReadByValue, Bool.and_eq_true] at hread
    exact badMerge_desugar lists lists' entries hcopied.2 hread.2 hread.1.2
  | .anchored n node, hcopied, hread, hopen => by
    simp only [everywhere, Bool.and_eq_true] at hcopied hread
    exact badSource_desugar (n :: lists) (n :: lists') node hcopied.2 hread.2 hopen
  | .again n, hcopied, _, _ => by cases hcopied

theorem badSources_desugar (lists lists' : List Nat) : ∀ items : List Node,
    everywhereItems isCopied items = true → everywhereItems isReadByValue items = true →
      (items.all fun node => !node.isShort) = true →
      badSources lists items = badSources lists' (desugarItems items)
  | [], _, _, _ => rfl
  | node :: rest, hcopied, hread, hopen => by
    simp only [everywhereItems, List.all_cons, Bool.and_eq_true, Bool.not_eq_true']
      at hcopied hread hopen
    have hrest := badSources_desugar lists lists' rest hcopied.2 hread.2 hopen.2
    have hbare := isCopied_bare node hcopied.1
    rw [desugarItems, badSources_cons lists node rest hbare,
      badSources_cons lists' _ _ ((isCopied_bare_desugar node).trans hbare), hrest,
      isMapping_desugar node hopen.1]
    cases hmapping : node.isMapping with
    | false => rfl
    | true =>
      have hnode := isOpenSource_of_isMapping node hmapping hopen.1
      rw [badSource_desugar lists lists' node hcopied.1 hread.1 hnode]

theorem badMerge_desugar (lists lists' : List Nat) : ∀ entries : List (Node × Node),
    everywhereEntries isCopied entries = true → everywhereEntries isReadByValue entries = true →
      (entries.all fun (k, v) => k.tag != .merge || isOpenSource v) = true →
      badMerge lists entries = badMerge lists' (desugarEntries entries)
  | [], _, _, _ => rfl
  | (k, v) :: rest, hcopied, hread, hopen => by
    simp only [everywhereEntries, List.all_cons, Bool.and_eq_true] at hcopied hread hopen
    rw [desugarEntries, badMerge, badMerge, tag_desugar_merge,
      badMerge_desugar lists lists' rest hcopied.2 hread.2 hopen.2]
    cases hmerge : k.tag == .merge with
    | false => rfl
    | true =>
      have hv : v.isOpenSource = true := by
        simpa only [bne, hmerge, Bool.not_true, Bool.false_or] using hopen.1
      rw [badSource_desugar lists lists' v hcopied.1.2 hread.1.2 hv]

end

/-! ## The value of a node written out -/

@[simp]
theorem own_inside (d : Depth) : d.inside.own = [] := by
  unfold Depth.inside
  split <;> rfl

/-- The entries of a mapping with nothing wrong about its merges. -/
theorem entriesAt_eq {d : Depth} {entries : List (Node × Node)}
    (h : badMerge d.lists entries = false) : ∃ inner : Depth, inner.own = d.own ∧
      entriesAt d entries =
        joined (mergedAt (inner.stating (ownAt inner entries)) entries) (ownAt inner entries) := by
  rw [entriesAt, h]
  exact ⟨{ d with
    texts := standInNumbers entries ++ d.texts
    lone := loneAt { d with texts := standInNumbers entries ++ d.texts } entries ++ d.lone },
    rfl, rfl⟩

theorem valueAt_text (d : Depth) (text : String) :
    valueAt d (.scalar .str text) = .ok (.atom (.str text)) := by
  simp only [valueAt, NodeTag.atom]

/-- A mapping with one text key has the value under its key, read further in. -/
theorem valueAt_single (d : Depth) (key : String) (node : Node) : ∃ inner : Depth,
    inner.own = [] ∧ valueAt d (single key node) = (valueAt inner node).map (Value.single key) := by
  have hgood : badMerge d.inside.lists [(.scalar .str key, node)] = false := rfl
  obtain ⟨inner, hown, hentries⟩ := entriesAt_eq hgood
  refine ⟨inner, hown.trans (own_inside d), ?_⟩
  have hmerged : mergedAt (inner.stating (ownAt inner [(.scalar .str key, node)]))
      [(.scalar .str key, node)] = .ok [] := by
    simp only [mergedAt, tag]
    rfl
  have howned : ownAt inner [(.scalar .str key, node)] =
      (valueAt inner node).map fun v => [(.str key, v)] := by
    simp only [ownAt, tag, valueAt_text]
    cases valueAt inner node <;> rfl
  rw [single, valueAt, hentries, hmerged, howned]
  cases valueAt inner node <;> rfl

/-- Written out, a short form has the value of the mapping that it writes. -/
theorem agree_wrap {α : Type} {d' : Depth} {name : String} {untagged : Node} (a : Meaning α)
    (argument : α → Value)
    (h : ∀ inner : Depth, inner.own = [] → Agree (a.map argument) (valueAt inner untagged)) :
    Agree (a.map fun x => ShortForm.wrap name (argument x))
      (valueAt d' (single (ShortForm.key name) untagged)) := by
  obtain ⟨inner, hown, hsingle⟩ := valueAt_single d' (ShortForm.key name) untagged
  have hmap : a.map (fun x => ShortForm.wrap name (argument x)) =
      (a.map argument).map (Value.single (ShortForm.key name)) := by cases a <;> rfl
  rw [hsingle, hmap]
  exact (h inner hown).map _

theorem agree_scalar (d d' : Depth) (tag : NodeTag) (text : String)
    (hown : tag = .value → d.own = [] ∧ d'.own = []) :
    Agree (valueAt d (.scalar tag text)) (valueAt d' (scalar tag text).desugar) := by
  cases tag with
  | shortForm name =>
    rw [desugar, valueAt, ShortForm.textArgument]
    split
    · refine agree_wrap (.ok ()) (fun _ => _) fun inner _ => ?_
      simp only [valueAt, itemsAt, valueAt_text]
      rfl
    · refine agree_wrap (.ok ()) (fun _ => _) fun inner _ => ?_
      rw [valueAt_text]
      rfl
  | value =>
    obtain ⟨hd, hd'⟩ := hown rfl
    rw [desugar_scalar .value text rfl, valueAt, valueAt, hd, hd']
    exact agree_trouble ..
  | _ =>
    rw [desugar_scalar _ text rfl]
    simp only [valueAt]
    first
    | exact agree_trouble ..
    | split <;> exact .refl _

theorem agree_entriesAt {d d' : Depth} {entries : List (Node × Node)}
    (hbad : badMerge d.lists entries = badMerge d'.lists (desugarEntries entries))
    (hmerged : badMerge d.lists entries = false → ∀ d d' : Depth,
      Agree (mergedAt d entries) (mergedAt d' (desugarEntries entries)))
    (hstated : ∀ inner inner' : Depth, inner.own = d.own → inner'.own = d'.own →
      Agree (ownAt inner entries) (ownAt inner' (desugarEntries entries))) :
    Agree (entriesAt d entries) (entriesAt d' (desugarEntries entries)) := by
  cases hgood : badMerge d.lists entries with
  | true =>
    rw [entriesAt, entriesAt, ← hbad, hgood]
    exact agree_trouble ..
  | false =>
    obtain ⟨inner, hown, heq⟩ := entriesAt_eq hgood
    obtain ⟨inner', hown', heq'⟩ := entriesAt_eq (hbad.symm.trans hgood)
    rw [heq, heq']
    exact .joined (hmerged hgood _ _) (hstated inner inner' hown hown')

mutual

theorem valueAt_desugar (d d' : Depth) : ∀ node : Node,
    node.everywhere isCopied = true → node.everywhere isReadByValue = true →
      (node.tag = .value → d.own = [] ∧ d'.own = []) →
      Agree (valueAt d node) (valueAt d' node.desugar)
  | .scalar tag text, _, _, hown => agree_scalar d d' tag text hown
  | .sequence tag items, hcopied, hread, _ => by
    simp only [everywhere, isReadByValue, Bool.and_eq_true] at hcopied hread
    have hitems : ∀ d d' : Depth, d.own = [] → d'.own = [] →
        Agree (itemsAt d items) (itemsAt d' (desugarItems items)) :=
      fun d d' hd hd' => itemsAt_desugar d d' items hcopied.2 hread.2 hd hd'
    cases tag with
    | shortForm name =>
      rw [desugar, wrapLong, valueAt]
      refine agree_wrap _ _ fun inner _ => ?_
      rw [valueAt]
      exact (hitems _ _ rfl (own_inside _)).map _
    | list =>
      rw [desugar_sequence _ items rfl, valueAt, valueAt]
      exact (hitems _ _ (own_inside _) (own_inside _)).map _
    | orderedMap | pairs =>
      rw [desugar_sequence _ items rfl, valueAt, valueAt]
      exact (pairsAt_desugar _ _ items hcopied.2 hread.2 hread.1 (own_inside _) (own_inside _)).map _
    | _ =>
      rw [desugar_sequence _ items rfl]
      simp only [valueAt]
      exact agree_trouble ..
  | .mapping tag entries, hcopied, hread, _ => by
    have hwhole := hcopied
    simp only [everywhere, isReadByValue, Bool.and_eq_true] at hcopied hread
    have hentries : ∀ d d' : Depth, d.own = [] → d'.own = [] →
        Agree (entriesAt d entries) (entriesAt d' (desugarEntries entries)) :=
      fun d d' hd hd' => agree_entriesAt
        (badMerge_desugar d.lists d'.lists entries hcopied.2 hread.2 hread.1.2)
        (fun hgood d d' => mergedAt_desugar d d' entries hcopied.2 hread.2 hread.1.2 hgood)
        fun inner inner' hown hown' => ownAt_desugar inner inner' entries hcopied.2 hread.2
          (hown.trans hd) (hown'.trans hd')
    cases tag with
    | shortForm name =>
      rw [desugar, wrapLong, valueAt]
      refine agree_wrap _ _ fun inner _ => ?_
      rw [valueAt]
      exact (hentries _ _ rfl (own_inside _)).map _
    | map | set =>
      rw [desugar_mapping _ entries rfl, valueAt, valueAt]
      exact (hentries _ _ (own_inside _) (own_inside _)).map _
    | list | orderedMap | pairs | merge | value | unknown =>
      rw [desugar_mapping _ entries rfl]
      simp only [valueAt]
      exact agree_trouble ..
    | _ =>
      rw [desugar_mapping _ entries rfl]
      simp only [valueAt]
      exact agree_standInAtom d d' _ (.mapping _ entries) hwhole hread.1.1
  | .anchored n node, hcopied, hread, _ => by
    simp only [everywhere, Bool.and_eq_true] at hcopied hread
    rw [desugar, valueAt, valueAt]
    have htag : node.tag = .value → (d.numbered n).own = [] ∧ (d'.numbered n).own = [] :=
      fun h => absurd h (bne_iff_ne.mp hread.1)
    exact (valueAt_desugar (d.numbered n) (d'.numbered n) node hcopied.2 hread.2 htag).map _
  | .again n, hcopied, _, _ => by cases hcopied

theorem itemsAt_desugar (d d' : Depth) : ∀ items : List Node,
    everywhereItems isCopied items = true → everywhereItems isReadByValue items = true →
      d.own = [] → d'.own = [] → Agree (itemsAt d items) (itemsAt d' (desugarItems items))
  | [], _, _, _, _ => by
    rw [desugarItems, itemsAt, itemsAt]
    exact .refl _
  | node :: rest, hcopied, hread, hd, hd' => by
    simp only [everywhereItems, Bool.and_eq_true] at hcopied hread
    rw [desugarItems, itemsAt, itemsAt]
    have hnode := valueAt_desugar d d' node hcopied.1 hread.1 fun _ => ⟨hd, hd'⟩
    exact (hnode.and (itemsAt_desugar d d' rest hcopied.2 hread.2 hd hd')).map _

theorem pairsAt_desugar (d d' : Depth) : ∀ items : List Node,
    everywhereItems isCopied items = true → everywhereItems isReadByValue items = true →
      items.all isOpenPair = true → d.own = [] → d'.own = [] →
      Agree (pairsAt d items) (pairsAt d' (desugarItems items))
  | [], _, _, _, _, _ => by
    rw [desugarItems, pairsAt, pairsAt]
    exact .refl _
  | node :: rest, hcopied, hread, hopen, hd, hd' => by
    simp only [everywhereItems, List.all_cons, isOpenPair, Bool.and_eq_true, Bool.not_eq_true']
      at hcopied hread hopen
    rw [desugarItems, pairsAt, pairsAt]
    have hnode := pairAt_desugar d d' node hcopied.1 hread.1 hopen.1.1 hd hd'
    exact (hnode.and (pairsAt_desugar d d' rest hcopied.2 hread.2 hopen.2 hd hd')).map _

theorem pairAt_desugar (d d' : Depth) : ∀ node : Node,
    node.everywhere isCopied = true → node.everywhere isReadByValue = true →
      node.isShort = false → d.own = [] → d'.own = [] →
      Agree (pairAt d node) (pairAt d' node.desugar)
  | .scalar tag text, _, _, hshort, _, _ => by
    rw [desugar_scalar tag text hshort]
    simp only [pairAt]
    exact agree_trouble ..
  | .sequence tag items, _, _, hshort, _, _ => by
    rw [desugar_sequence tag items hshort]
    simp only [pairAt]
    exact agree_trouble ..
  | .mapping tag [(k, v)], hcopied, hread, hshort, hd, hd' => by
    simp only [everywhere, everywhereEntries, Bool.and_eq_true] at hcopied hread
    rw [desugar_mapping tag _ hshort, desugarEntries, desugarEntries, pairAt, pairAt]
    have hk := valueAt_desugar d d' k hcopied.2.1.1 hread.2.1.1 fun _ => ⟨hd, hd'⟩
    have hv := valueAt_desugar d d' v hcopied.2.1.2 hread.2.1.2 fun _ => ⟨hd, hd'⟩
    exact (hk.and hv).map _
  | .mapping tag [], _, _, hshort, _, _ => by
    rw [desugar_mapping tag _ hshort, desugarEntries]
    simp only [pairAt]
    exact agree_trouble ..
  | .mapping tag (_ :: _ :: _), _, _, hshort, _, _ => by
    rw [desugar_mapping tag _ hshort, desugarEntries, desugarEntries]
    simp only [pairAt]
    exact agree_trouble ..
  | .anchored n node, hcopied, hread, hshort, hd, hd' => by
    simp only [everywhere, Bool.and_eq_true] at hcopied hread
    rw [desugar, pairAt, pairAt]
    exact pairAt_desugar d d' node hcopied.2 hread.2 hshort hd hd'
  | .again n, hcopied, _, _, _, _ => by cases hcopied

theorem mergedAt_desugar (d d' : Depth) {lists : List Nat} : ∀ entries : List (Node × Node),
    everywhereEntries isCopied entries = true → everywhereEntries isReadByValue entries = true →
      (entries.all fun (k, v) => k.tag != .merge || isOpenSource v) = true →
      badMerge lists entries = false →
      Agree (mergedAt d entries) (mergedAt d' (desugarEntries entries))
  | [], _, _, _, _ => by
    rw [desugarEntries, mergedAt, mergedAt]
    exact .refl _
  | (k, v) :: rest, hcopied, hread, hopen, hgood => by
    simp only [everywhereEntries, List.all_cons, badMerge, Bool.and_eq_true, Bool.or_eq_false_iff]
      at hcopied hread hopen hgood
    have hrest := mergedAt_desugar d d' rest hcopied.2 hread.2 hopen.2 hgood.2
    rw [desugarEntries, mergedAt, mergedAt, tag_desugar_merge]
    cases hmerge : k.tag == .merge with
    | false => exact hrest
    | true =>
      simp only [bne, hmerge, Bool.not_true, Bool.false_or, Bool.true_and] at hopen hgood
      exact ((sourceAt_desugar d d' v hcopied.1.2 hread.1.2 hopen.1 hgood.1).and hrest).map _

theorem ownAt_desugar (d d' : Depth) : ∀ entries : List (Node × Node),
    everywhereEntries isCopied entries = true → everywhereEntries isReadByValue entries = true →
      d.own = [] → d'.own = [] → Agree (ownAt d entries) (ownAt d' (desugarEntries entries))
  | [], _, _, _, _ => by
    rw [desugarEntries, ownAt, ownAt]
    exact .refl _
  | (k, v) :: rest, hcopied, hread, hd, hd' => by
    simp only [everywhereEntries, Bool.and_eq_true] at hcopied hread
    have hrest := ownAt_desugar d d' rest hcopied.2 hread.2 hd hd'
    rw [desugarEntries, ownAt, ownAt, tag_desugar_merge, tag_desugar_value]
    split
    · exact hrest
    · have hkey := valueAt_desugar d d' k hcopied.1.1 hread.1.1 fun _ => ⟨hd, hd'⟩
      have hv := valueAt_desugar d d' v hcopied.1.2 hread.1.2 fun _ => ⟨hd, hd'⟩
      refine ((Agree.and ?_ hv).and hrest).map _
      split
      · next hvalue =>
        have hopen := isOpenText_of_value k (isReadByValue_of_everywhere k hread.1.1) (beq_iff_eq.mp hvalue)
        exact (agree_standInAtom d d' .str k hcopied.1.1 hopen).keyOf d d'
      · exact hkey.keyOf d d'

theorem sourceAt_desugar (d d' : Depth) {lists : List Nat} : ∀ node : Node,
    node.everywhere isCopied = true → node.everywhere isReadByValue = true →
      node.isOpenSource = true → badSource lists node = false →
      Agree (sourceAt d node) (sourceAt d' node.desugar)
  | .scalar tag text, _, _, _, hgood => by cases hgood
  | .sequence tag items, hcopied, hread, hopen, hgood => by
    simp only [everywhere, isOpenSource, Bool.and_eq_true, Bool.not_eq_true'] at hcopied hread hopen
    rw [desugar_sequence tag items hopen.1, sourceAt, sourceAt]
    exact sourcesAt_desugar _ _ items hcopied.2 hread.2 hopen.2 hgood
  | .mapping tag entries, hcopied, hread, hopen, hgood => by
    simp only [everywhere, isReadByValue, Bool.and_eq_true] at hcopied hread
    rw [desugar_mapping tag entries ((Bool.not_eq_true' _).mp hopen), sourceAt, sourceAt]
    exact .joined (mergedAt_desugar _ _ entries hcopied.2 hread.2 hread.1.2 hgood)
      (ownAt_desugar _ _ entries hcopied.2 hread.2 rfl rfl)
  | .anchored n node, hcopied, hread, hopen, hgood => by
    simp only [everywhere, Bool.and_eq_true] at hcopied hread
    rw [desugar, sourceAt, sourceAt]
    exact sourceAt_desugar _ _ node hcopied.2 hread.2 hopen hgood
  | .again n, hcopied, _, _, _ => by cases hcopied

theorem sourcesAt_desugar (d d' : Depth) {lists : List Nat} : ∀ items : List Node,
    everywhereItems isCopied items = true → everywhereItems isReadByValue items = true →
      (items.all fun node => !node.isShort) = true → badSources lists items = false →
      Agree (sourcesAt d items) (sourcesAt d' (desugarItems items))
  | [], _, _, _, _ => by
    rw [desugarItems, sourcesAt, sourcesAt]
    exact .refl _
  | node :: rest, hcopied, hread, hopen, hgood => by
    simp only [everywhereItems, List.all_cons, Bool.and_eq_true, Bool.not_eq_true']
      at hcopied hread hopen
    rw [badSources_cons lists node rest (isCopied_bare node hcopied.1)] at hgood
    simp only [Bool.or_eq_false_iff, Bool.not_eq_false'] at hgood
    have hnode := isOpenSource_of_isMapping node hgood.1.1 hopen.1
    rw [desugarItems, sourcesAt, sourcesAt]
    exact ((sourceAt_desugar d d' node hcopied.1 hread.1 hnode hgood.1.2).and
      (sourcesAt_desugar d d' rest hcopied.2 hread.2 hopen.2 hgood.2)).map _

end

/-! ## The value of a document -/

theorem toOption_numberedValue (node : Node) :
    node.numberedValue.toOption = (valueAt {} node).toOption := by
  rw [numberedValue]
  cases valueAt {} node <;> rfl

theorem toOption_value (node : Node) :
    node.value.toOption = (valueAt {} node).toOption.map Value.unrolled := by
  rw [value, numberedValue]
  cases valueAt {} node <;> rfl

/-- A tree whose short forms are asked for their values has the same value with the short forms
written out, or none in both cases. That is so with the numbers of its containers, too. -/
theorem value_desugar (node : Node) (hcopied : node.everywhere isCopied = true)
    (hread : node.everywhere isReadByValue = true) :
    node.desugar.value.toOption = node.value.toOption ∧
      node.desugar.numberedValue.toOption = node.numberedValue.toOption := by
  have hagree : (valueAt {} node).toOption = (valueAt {} node.desugar).toOption :=
    valueAt_desugar {} {} node hcopied hread fun _ => ⟨rfl, rfl⟩
  constructor
  · rw [toOption_value, toOption_value, hagree]
  · rw [toOption_numberedValue, toOption_numberedValue, hagree]

/-- Short forms in each other, in a list of pairs and in a mapping that is merged, one of them shared. -/
def shortForms : Node :=
  let arn := .anchored 0 (.scalar (.shortForm "GetAtt") "hello.Arn")
  .mapping .map [
    (.scalar .merge "<<", .mapping .map [(.scalar .str "Resource", arn)]),
    (.scalar .str "Parameters", .sequence .pairs [
      .mapping .map [(.scalar .str "text", .mapping (.shortForm "Sub") [
        (.scalar .str "name", .sequence (.shortForm "Join") [
          .scalar .str "-", .scalar (.shortForm "Ref") "1"])])],
      .mapping .map [(.scalar .str "arn", arn)]])]

theorem value_desugar_shortForms :
    shortForms.desugar.value.toOption = shortForms.value.toOption ∧
      shortForms.desugar.numberedValue.toOption = shortForms.numberedValue.toOption :=
  value_desugar shortForms (by decide) (by decide)

/-- A short form as the source of a merge, as an item of a list of pairs and as the text that stands
for a mapping. -/
theorem value_desugar_lookedAt :
    let argument := Node.mapping (.shortForm "Foo") [(.scalar .str "a", .scalar .str "x")]
    let merged := Node.mapping .map [(.scalar .merge "<<", argument)]
    let paired := Node.sequence .pairs [argument]
    let standIn := Node.mapping .str [(.scalar .value "=", .scalar (.shortForm "Ref") "x")]
    (merged.everywhere isCopied = true ∧
      merged.value.toOption = some (.map [(.str "a", .str "x")]) ∧
      merged.desugar.value.toOption =
        some (.map [(.str "Fn::Foo", .map [(.str "a", .str "x")])])) ∧
    (paired.everywhere isCopied = true ∧
      paired.value.toOption = some (.list [.tuple [.str "a", .str "x"]]) ∧
      paired.desugar.value.toOption =
        some (.list [.tuple [.str "Fn::Foo", .map [(.str "a", .str "x")]]])) ∧
    (standIn.everywhere isCopied = true ∧
      standIn.value.toOption = some (.str "x") ∧ standIn.desugar.value.toOption = none) := by
  simp only [toOption_value]
  cbv

end Node

end FlowTemplate.Yaml
