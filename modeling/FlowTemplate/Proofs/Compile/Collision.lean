import FlowTemplate.Proofs.Compile.Assembly
import FlowTemplate.Proofs.Compile.Pass
import FlowTemplate.Proofs.Merge.Repeated
/-!
# Machines that ask for one logical ID

A machine stands under the logical ID that is made from its own ID, its name or its key. Different
machines may ask for the same one: `flow` and `Flow` do, and so do `a-b` and `aDashb`. Their entries
are merged, and of what both declare the later one stays. A machine that shares its logical ID with
no other stands in the template as it was compiled, and a pass adds as many resources and outputs as
its machines have different logical IDs.
-/

namespace FlowTemplate.Pass

open FlowTemplate.Computation

/-- The session in which a machine has been reported. -/
def reported (key : Atom) (m : CompiledMachine) (s : Session) : Session :=
  { s with log := s.log ++
    [⟨.info, s!"Compiled state machine \"{Literal.displayAtom key}\" as {m.logicalId}"⟩] }

/-- Machines compile one after the other, each against the template and in the session that the one
before has left. -/
inductive Compiles (context : Context) :
    Entries → Session → List (Atom × Value) → List CompiledMachine → Entries → Session → Prop
  | nil {template : Entries} {session : Session} : Compiles context template session [] [] template
      session
  | cons {template filled : Entries} {session s final : Session} {key : Atom} {machine : Value}
      {m : CompiledMachine} {rest : List (Atom × Value)} {compiled : List CompiledMachine}
      (hrun : (Machine.compile context (.map template) (Literal.displayAtom key) machine).run
        session = (.ok m, s))
      (hrest : Compiles context (withMachine template m) (reported key m s) rest compiled filled
        final) :
      Compiles context template session ((key, machine) :: rest) (m :: compiled) filled final

variable {context : Context} {template filled : Entries} {session final : Session}
  {machines : List (Atom × Value)} {compiled : List CompiledMachine}

theorem Compiles.exists_cons {key : Atom} {machine : Value}
    (h : Compiles context template session ((key, machine) :: machines) compiled filled final) :
    ∃ m s rest, compiled = m :: rest ∧
      (Machine.compile context (.map template) (Literal.displayAtom key) machine).run session =
        (.ok m, s) ∧
      Compiles context (withMachine template m) (reported key m s) machines rest filled final := by
  cases h with
  | cons hrun hrest => exact ⟨_, _, _, rfl, hrun, hrest⟩

/-- When a run over machines succeeds, they have compiled one after the other. -/
theorem compiles_of_run (hsections : HasSections template)
    (h : (addMachines context machines).run (template, session) = (.ok (), (filled, final))) :
    ∃ compiled, Compiles context template session machines compiled filled final := by
  induction machines generalizing template session with
  | nil =>
    cases h
    exact ⟨[], .nil⟩
  | cons entry rest ih =>
    obtain ⟨key, machine⟩ := entry
    rw [addMachines, run_bind, run_addMachine context key machine hsections] at h
    rcases hrun : (Machine.compile context (.map template) (Literal.displayAtom key) machine).run
      session with ⟨e | m, s⟩
    · rw [hrun] at h
      cases h
    · rw [hrun] at h
      obtain ⟨compiled, hrest⟩ := ih (hasSections_withMachine template m) h
      exact ⟨m :: compiled, .cons hrun hrest⟩

theorem Compiles.eq_foldl (h : Compiles context template session machines compiled filled final) :
    filled = compiled.foldl withMachine template := by
  induction h with
  | nil => rfl
  | cons _ _ ih => exact ih

/-- Every machine is one of those given, compiled against some template in some session. -/
theorem Compiles.exists_run
    (h : Compiles context template session machines compiled filled final) :
    ∀ m ∈ compiled, ∃ key machine template s s', (key, machine) ∈ machines ∧
      (Machine.compile context (.map template) (Literal.displayAtom key) machine).run s =
        (.ok m, s') := by
  induction h with
  | nil =>
    intro m hm
    cases hm
  | @cons template _ _ _ _ key machine _ rest _ hrun _ ih =>
    intro m hm
    rcases List.mem_cons.mp hm with rfl | hm
    · exact ⟨key, machine, template, _, _, List.mem_cons_self, hrun⟩
    · obtain ⟨key, machine, template, s, s', hmem, hrun⟩ := ih m hm
      exact ⟨key, machine, template, s, s', List.mem_cons_of_mem _ hmem, hrun⟩

/-- Every machine stands under the IDs that its block asks for. -/
theorem Compiles.ids (h : Compiles context template session machines compiled filled final) :
    ∀ m ∈ compiled, m.outputId = m.logicalId ++ "Arn" ∧ ∃ key machine, (key, machine) ∈ machines ∧
      Naming.stateMachineId (Literal.displayAtom key) machine = .ok m.logicalId := by
  intro m hm
  obtain ⟨key, machine, template, s, s', hmem, hrun⟩ := h.exists_run m hm
  obtain ⟨definition, parts, hassembled⟩ := Machine.assembled_of_compile hrun
  exact ⟨hassembled.outputId, key, machine, hmem, hassembled.logicalId⟩

/-! ## The sections of the template -/

/-- What machines add to a section: a value under a key for each. -/
def added (key : CompiledMachine → String) (value : CompiledMachine → Value)
    (compiled : List CompiledMachine) : Entries :=
  compiled.map fun m => (.str (key m), value m)

theorem outputs_withMachine (template : Entries) (m : CompiledMachine) :
    (withMachine template m).under "Outputs" =
      (template.under "Outputs").insert (.str m.outputId)
        (Value.mergeInto ((template.under "Outputs").find? m.outputId) m.output.toTemplate) := by
  refine under_of_find? ?_
  have hunder (fragment : Entries) :
      (mergedUnder "Resources" fragment template).under "Outputs" = template.under "Outputs" := by
    rw [Entries.under, Entries.under, find?_mergedUnder, if_neg (by decide)]
  rw [withMachine, find?_mergedUnder, if_pos rfl, hunder, Value.mergeEntries_cons]
  rfl

theorem resources_foldl (template : Entries) (compiled : List CompiledMachine) :
    (compiled.foldl withMachine template).under "Resources" =
      Value.mergeEntries (template.under "Resources")
        (added (·.logicalId) (·.resource.toTemplate) compiled) := by
  induction compiled generalizing template with
  | nil => rfl
  | cons m compiled ih =>
    rw [List.foldl_cons, ih, resources_withMachine, added, added, List.map_cons,
      Value.mergeEntries_cons]

theorem outputs_foldl (template : Entries) (compiled : List CompiledMachine) :
    (compiled.foldl withMachine template).under "Outputs" =
      Value.mergeEntries (template.under "Outputs")
        (added (·.outputId) (·.output.toTemplate) compiled) := by
  induction compiled generalizing template with
  | nil => rfl
  | cons m compiled ih =>
    rw [List.foldl_cons, ih, outputs_withMachine, added, added, List.map_cons,
      Value.mergeEntries_cons]

variable {key : CompiledMachine → String} {value : CompiledMachine → Value} {target : Entries}

theorem keys_added (key : CompiledMachine → String) (value : CompiledMachine → Value)
    (compiled : List CompiledMachine) :
    (added key value compiled).keys = (compiled.map key).map Atom.str := by
  rw [added, Entries.keys, List.map_map, List.map_map]
  rfl

theorem exists_str_of_mem_added {k : Atom} (h : k ∈ (added key value compiled).keys) :
    ∃ s, k = .str s := by
  rw [keys_added] at h
  obtain ⟨s, -, rfl⟩ := List.mem_map.mp h
  exact ⟨s, rfl⟩

/-- Under a key that one machine only has stands what this machine adds. -/
theorem find?_added {before after : List CompiledMachine} {m : CompiledMachine}
    (hnew : target.find? (key m) = none) (hother : ∀ other ∈ before ++ after, key other ≠ key m) :
    (Value.mergeEntries target (added key value (before ++ m :: after))).find? (key m) =
      some (value m) := by
  have hnotMem {part : List CompiledMachine} (hpart : ∀ other ∈ part, key other ≠ key m) :
      .str (key m) ∉ (added key value part).keys := by
    intro hmem
    rw [keys_added] at hmem
    obtain ⟨s, hs, hsame⟩ := List.mem_map.mp hmem
    obtain ⟨other, hmember, rfl⟩ := List.mem_map.mp hs
    exact hpart other hmember (Atom.str.inj hsame)
  have hbefore := hnotMem fun other h => hother other (List.mem_append_left after h)
  have hafter := hnotMem fun other h => hother other (List.mem_append_right before h)
  have hsplit : added key value (before ++ m :: after) =
      added key value before ++ (.str (key m), value m) :: added key value after := by
    rw [added, List.map_append, List.map_cons]
    rfl
  rw [hsplit]
  exact Value.find?_mergeEntries_once hbefore hafter hnew

theorem eraseDups_map {α β : Type} [DecidableEq α] [DecidableEq β] {f : α → β}
    (hf : ∀ a b, f a = f b → a = b) : (as : List α) →
    (as.map f).eraseDups = as.eraseDups.map f
  | [] => rfl
  | a :: as => by
    have hfilter : (as.map f).filter (fun b => !b == f a) =
        (as.filter fun b => !b == a).map f := by
      rw [List.filter_map]
      congr 1
      refine List.filter_congr fun b _ => ?_
      have hiff : f b = f a ↔ b = a := ⟨hf b a, congrArg f⟩
      simp [Bool.beq_eq_decide_eq, hiff]
    rw [List.map_cons, List.eraseDups_cons, List.eraseDups_cons, hfilter, eraseDups_map hf,
      List.map_cons]
termination_by as => as.length
decreasing_by
  have hlength := List.length_filter_le (fun b => !b == a) as
  simp only [List.length_cons]
  omega

/-- A section gets every new key once, in the order in which the machines first have it. -/
theorem keys_mergeEntries_added (hnew : ∀ m ∈ compiled, target.find? (key m) = none) :
    (Value.mergeEntries target (added key value compiled)).keys =
      target.keys ++ (compiled.map key).eraseDups.map fun s => .str s := by
  have hkept : ((added key value compiled).keys.filter fun k => decide (k ∉ target.keys)) =
      (added key value compiled).keys := by
    refine List.filter_eq_self.mpr fun k hk => ?_
    rw [keys_added] at hk
    obtain ⟨s, hs, rfl⟩ := List.mem_map.mp hk
    obtain ⟨m, hm, rfl⟩ := List.mem_map.mp hs
    exact decide_eq_true (Entries.find?_eq_none_iff.mp (hnew m hm))
  rw [Value.keys_mergeEntries fun k => exists_str_of_mem_added, hkept, keys_added,
    eraseDups_map fun s t => Atom.str.inj]

/-! ## Passes -/

/-- The template has nothing under an ID that the machines ask for. -/
def AreNew (template : Entries) (machines : List (Atom × Value)) : Prop :=
  ∀ key machine, (key, machine) ∈ machines → ∀ logicalId,
    Naming.stateMachineId (Literal.displayAtom key) machine = .ok logicalId →
      (template.under "Resources").contains logicalId = false ∧
        (template.under "Outputs").contains (logicalId ++ "Arn") = false

theorem append_arn_injective (s t : String) (h : s ++ "Arn" = t ++ "Arn") : s = t := by
  have hlists := congrArg String.toList h
  rw [String.toList_append, String.toList_append] at hlists
  exact String.toList_injective (List.append_cancel_right hlists)

end FlowTemplate.Pass
