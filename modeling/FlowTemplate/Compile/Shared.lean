import FlowTemplate.Compile.Pass
/-!
# Templates with shared containers

In a template that was read from YAML one container can stand in several places. What is merged into
it in one place then shows in all. For merging, every container that has a number is taken out of the
template and kept under its number; afterwards all are put back.
-/

namespace FlowTemplate.Shared

/-- Containers by number. Inside them and in the template only their numbers stand. -/
abbrev Containers := List (Nat × Value)

def Containers.set (containers : Containers) (number : Nat) (v : Value) : Containers :=
  containers.map fun (n, w) => (n, if n == number then v else w)

mutual

/-- A value with numbers in the places of its containers. -/
def shallow : Value → Value
  | .anchored n _ => .again n
  | .list items => .list (shallowItems items)
  | .tuple items => .tuple (shallowItems items)
  | .map entries => .map (shallowEntries entries)
  | v => v

def shallowItems : List Value → List Value
  | [] => []
  | v :: rest => shallow v :: shallowItems rest

def shallowEntries : List (Atom × Value) → Entries
  | [] => []
  | (k, v) :: rest => (k, shallow v) :: shallowEntries rest

end

mutual

/-- The containers in a value. -/
def containers : Value → Containers
  | .anchored n v => (n, shallow v) :: containers v
  | .list items | .tuple items => containersOfItems items
  | .map entries => containersOfEntries entries
  | _ => []

def containersOfItems : List Value → Containers
  | [] => []
  | v :: rest => containers v ++ containersOfItems rest

def containersOfEntries : List (Atom × Value) → Containers
  | [] => []
  | (_, v) :: rest => containers v ++ containersOfEntries rest

end

mutual

/-- A value with something in the place of each number. -/
def filled (whole : Nat → Value) : Value → Value
  | .again n => whole n
  | .list items => .list (filledItems whole items)
  | .tuple items => .tuple (filledItems whole items)
  | .map entries => .map (filledEntries whole entries)
  | v => v

def filledItems (whole : Nat → Value) : List Value → List Value
  | [] => []
  | v :: rest => filled whole v :: filledItems whole rest

def filledEntries (whole : Nat → Value) : List (Atom × Value) → Entries
  | [] => []
  | (k, v) :: rest => (k, filled whole v) :: filledEntries whole rest

end

/-- A container with the containers in it. Inside itself only its number stands, so no more of them
are one in the other than there are. -/
def whole (all : Containers) : (fuel : Nat) → (around : List Nat) → Nat → Value
  | 0, _, n => .again n
  | fuel + 1, around, n =>
    if around.contains n then .again n
    else match all.lookup n with
      | some v => .anchored n (filled (whole all fuel (n :: around)) v)
      | none => .again n

/-- Entries with all containers put back. -/
def restored (all : Containers) (entries : Entries) : Entries :=
  filledEntries (whole all (all.length + 1) []) entries

/-- A computation on the containers. -/
abbrev Merging (α : Type) := StateM Containers α

mutual

/-- What stands under a key after a source value has met what stood there. -/
def mergeInto (found : Option Value) : Value → Merging Value
  | .map source => match found with
    | some (.map target) => return .map (← mergeEntries target source)
    | some (.again n) => do
      match (← get).lookup n with
      | some (.map _) => do
        mergeContainer n source
        return .again n
      | _ => return .map source
    | _ => return .map source
  | v => return v

/-- The entries of a target after those of a source have been merged into them. -/
def mergeEntries (target : Entries) : List (Atom × Value) → Merging Entries
  | [] => return target
  | (k, v) :: rest => do
    let merged ← mergeInto (target.get? k) v
    mergeEntries (target.insert k merged) rest

/-- Merges entries into a container, which can change meanwhile. -/
def mergeContainer (n : Nat) : List (Atom × Value) → Merging Unit
  | [] => return ()
  | (k, v) :: rest => do
    let entries (all : Containers) : Entries := ((all.lookup n).bind Value.entries?).getD []
    let merged ← mergeInto ((entries (← get)).get? k) v
    modify fun all => all.set n (.map ((entries all).insert k merged))
    mergeContainer n rest

end

/-- A template with a fragment merged into what stands under a key. -/
def mergeUnder (key : String) (fragment : Value) (template : Entries) : Except Misfit Entries := do
  let found := (template.find? key).getD .null
  let source ← fragment.entries
  if source.isEmpty then return template
  let _ ← found.entries
  let (merged, all) :=
    (mergeInto (some (shallow found)) (.map source)).run (containersOfEntries template)
  return restored all ((shallowEntries template).insert (.str key) merged)

/-- Compiles one machine and merges what it yields. -/
def addMachine (context : Context) (key : Atom) (machine : Value) : Pass.PassM Unit := do
  let name := Literal.displayAtom key
  let compiled ← Pass.inSession fun template =>
    Machine.compile context (Value.map template).unrolled name machine
  Pass.change (mergeUnder "Resources" compiled.resources)
  Pass.change (mergeUnder "Outputs" compiled.outputs)
  Pass.inSession fun _ =>
    Compile.tell .info s!"Compiled state machine \"{name}\" as {compiled.logicalId}"

/-- Compiles machines one after the other. -/
def addMachines (context : Context) : List (Atom × Value) → Pass.PassM Unit
  | [] => return ()
  | (key, machine) :: rest => do
    addMachine context key machine
    addMachines context rest

/-- Compiles machines into a template with shared containers. -/
def run (context : Context) (tokens : TokenSource) (machines template : Entries) : Pass.Outcome :=
  let (result, (template, session)) :=
    (addMachines context machines).run (Pass.withSections template, Session.start tokens)
  { result, template := .map template, log := session.log }

end FlowTemplate.Shared
