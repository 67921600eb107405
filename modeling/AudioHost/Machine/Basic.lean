import AudioHost.Native.Linker

/-!
The machine that the host runs on: its files, its linker and the buffers that samples are in.
-/

namespace AudioHost

/-- A buffer is known by its owner and the port that it is for. -/
structure BufferId where
  owner : String
  port : Nat
deriving DecidableEq, Repr

/-- Buffers of samples. -/
abbrev Buffers := List (BufferId × List Single)

namespace Buffers

/-- The number of samples in a buffer. -/
def size : Nat := 1024

/-- A full buffer that starts with some samples and goes on with zeros. -/
def fill (samples : List Single) : List Single :=
  samples.take size ++ List.replicate (size - samples.length) .zero

/-- Sets the samples of a buffer. -/
def put (b : Buffers) (id : BufferId) (samples : List Single) : Buffers :=
  (id, samples) :: b.filter fun e => e.1 != id

/-- The samples of a buffer. -/
def samples (b : Buffers) (id : BufferId) : List Single := (b.lookup id).getD []

end Buffers

/-- The machine that the host runs on. -/
structure Machine where
  files : FileTree
  linker : Linker
  buffers : Buffers
  /-- The number of the next instance or rack. -/
  next : Nat

namespace Machine

/-- A machine with some files, and a linker that has opened nothing. -/
def start (files : FileTree) (linker : Linker) : Machine := ⟨files, linker, [], 0⟩

/-- The machine with a linker in a new state. -/
def withLinker (m : Machine) (l : Linker) : Machine := { m with linker := l }

/-- Opens the library at a path. -/
def openLibrary (m : Machine) (p : Path) : Except PluginError OpenLibrary × Machine :=
  let (r, l) := m.linker.openAt m.files p
  (r, m.withLinker l)

/-- Closes an open library. -/
def closeLibrary (m : Machine) (number : Nat) : Except PluginError Unit × Machine :=
  let (r, l) := m.linker.close number
  (r, m.withLinker l)

/-- Adds a user of an open library. -/
def share (m : Machine) (number : Nat) : Machine := m.withLinker (m.linker.share number)

/-- Takes a user from an open library. -/
def unshare (m : Machine) (number : Nat) : Machine := m.withLinker (m.linker.unshare number)

/-- Adds an event to the journal. -/
def note (m : Machine) (e : Event) : Machine := m.withLinker (m.linker.note e)

end Machine

end AudioHost
