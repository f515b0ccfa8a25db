import FlowTemplate.Compile.Machine
import FlowTemplate.Merge
/-!
# Passes

A pass compiles state machines in the order of their declaration and merges what each yields into
the resources and outputs of a template. The first failure ends it; what was merged before stays.
-/

namespace FlowTemplate.Pass

/-- A template whose sections for resources and outputs exist. -/
def withSections (template : Entries) : Entries :=
  let ensure (key : String) (entries : Entries) : Entries :=
    if entries.contains key then entries else entries.insert (.str key) (.map [])
  ensure "Outputs" (ensure "Resources" template)

/-- A template with a fragment merged into what stands under a key. -/
def mergeUnder (key : String) (fragment : Value) (template : Entries) :
    Except Misfit Entries := do
  let merged ← ((template.find? key).getD .null).merge fragment
  return template.insert (.str key) merged

/-- A computation on a template in a session; the template survives a failure as far as it was
changed. -/
abbrev PassM (α : Type) := ExceptT CompileError (StateM (Entries × Session)) α

/-- A compilation against the template as it is. -/
def inSession {α : Type} (f : Entries → Compile α) : PassM α := fun (template, session) =>
  let (result, session) := (f template).run session
  (result, (template, session))

/-- A change of the template. -/
def change (f : Entries → Except Misfit Entries) : PassM Unit := fun (template, session) =>
  match f template with
  | .ok template => (.ok (), (template, session))
  | .error m => (.error (.misfit m), (template, session))

/-- Compiles one machine and merges what it yields. -/
def addMachine (context : Context) (key : Atom) (machine : Value) : PassM Unit := do
  let name := Literal.displayAtom key
  let compiled ← inSession fun template => Machine.compile context (.map template) name machine
  change (mergeUnder "Resources" compiled.resources)
  change (mergeUnder "Outputs" compiled.outputs)
  inSession fun _ =>
    Compile.tell .info s!"Compiled state machine \"{name}\" as {compiled.logicalId}"

/-- Compiles machines one after the other. -/
def addMachines (context : Context) : List (Atom × Value) → PassM Unit
  | [] => return ()
  | (key, machine) :: rest => do
    addMachine context key machine
    addMachines context rest

/-- What a pass leaves behind. -/
structure Outcome where
  result : Except CompileError Unit
  template : Value
  log : List Log.Entry

/-- Compiles the machines of a mapping into a template. -/
def run (context : Context) (tokens : TokenSource) (machines template : Value) : Outcome :=
  match template.entries with
  | .error m => { result := .error (.misfit m), template, log := [] }
  | .ok entries =>
    let entries := withSections entries
    match machines.entries with
    | .error m => { result := .error (.misfit m), template := .map entries, log := [] }
    | .ok machines =>
      let (result, (entries, session)) :=
        (addMachines context machines).run (entries, Session.start tokens)
      { result, template := .map entries, log := session.log }

end FlowTemplate.Pass
