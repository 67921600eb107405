import AudioHost.Rack.Basic

/-!
A bench: racks, and instances that are kept under names.
-/

namespace AudioHost

/-- Racks and named instances on one machine. -/
structure Bench where
  machine : Machine
  racks : List Rack
  slots : List (String × Instance)

namespace Bench

/-- A bench without racks. -/
def start (m : Machine) : Bench := ⟨m, [], []⟩

/-! ## Racks -/

/-- Adds a rack. -/
def addRack (b : Bench) (kind : PluginKind) (searchPath : List Path) : Bench :=
  let m := b.machine
  { b with
    machine := { m with next := m.next + 1 }
    racks := b.racks ++ [.empty m.next kind searchPath] }

/-- The rack of a number. -/
def rack? (b : Bench) (number : Nat) : Option Rack := b.racks.find? fun r => r.number == number

/-- The first rack of a kind. -/
def rackFor? (b : Bench) (kind : PluginKind) : Option Rack :=
  b.racks.find? fun r => r.kind == kind

/-- Puts a rack in the place of the one with its number. -/
def putRack (b : Bench) (r : Rack) (m : Machine) : Bench :=
  { b with
    machine := m
    racks := b.racks.map fun old => if old.number = r.number then r else old }

/-- Gives up a rack. -/
def dropRack (b : Bench) (r : Rack) : Bench :=
  { b with
    machine := r.discard b.machine
    racks := b.racks.filter fun old => old.number != r.number }

/-! ## Instances -/

/-- Ends an instance, and tells its rack if that is still there. -/
def finish (b : Bench) (i : Instance) : Bench :=
  let b := { b with machine := i.finish b.machine }
  match b.rack? i.rack with
  | none => b
  | some r =>
    let (r, m) := r.released i.number b.machine
    b.putRack r m

/-- The instance of a name. -/
def slot? (b : Bench) (name : String) : Option Instance := b.slots.lookup name

/-- Puts an instance under a name. -/
def putSlot (b : Bench) (name : String) (i : Instance) : Bench :=
  { b with slots := (name, i) :: b.slots.filter fun e => e.1 != name }

/-- Frees a name. -/
def freeSlot (b : Bench) (name : String) : Bench :=
  { b with slots := b.slots.filter fun e => e.1 != name }

/-- Makes an instance in a rack and keeps it under a name. One that had the name is ended after
that. -/
def instantiate (b : Bench) (r : Rack) (id : Identifier) (rate : Single) (name : String) :
    Except PluginError Instance × Bench :=
  match r.instantiate id rate b.machine with
  | (.error e, r, m) => (.error e, b.putRack r m)
  | (.ok i, r, m) =>
    let made := (b.putRack r m).putSlot name i
    match b.slot? name with
    | some old => (.ok i, made.finish old)
    | none => (.ok i, made)

/-- Ends the instance of a name. -/
def release (b : Bench) (name : String) (i : Instance) : Bench := (b.freeSlot name).finish i

/-- Performs an operation on the instance of a name. -/
def perform (b : Bench) (name : String) (i : Instance) (op : Operation) :
    Except PluginError Reply × Bench :=
  let (r, i, m) := i.perform op b.machine
  (r, { b with machine := m }.putSlot name i)

/-- Fills the buffer for a port of the instance of a name and gives it to the port. Without samples
the port is given none. -/
def connect (b : Bench) (name : String) (i : Instance) (port : Nat)
    (samples : Option (List Single)) : Except PluginError Reply × Bench :=
  match samples with
  | none => b.perform name i (.connectPort port none)
  | some xs =>
    let id : BufferId := ⟨name, port⟩
    let m := b.machine
    let filled := { m with buffers := m.buffers.put id (Buffers.fill xs) }
    { b with machine := filled }.perform name i (.connectPort port (some id))

/-- The samples in the buffer for a port of the instance of a name. -/
def buffer? (b : Bench) (name : String) (port : Nat) : Option (List Single) :=
  b.machine.buffers.lookup ⟨name, port⟩

end Bench

end AudioHost
