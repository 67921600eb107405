import AudioHost.Number.Binary

/-!
Notices of change, and the mailbox of a listener.

A mailbox holds a bounded number of notices. One that is not emptied in time loses the oldest, and
its reader is told how many were lost.
-/

namespace AudioHost.Grid

/-- What a grid tells its listeners. -/
inductive Notice where
  /-- Anything may have changed. -/
  | changed
  /-- Values in frames `start ≤ f < stop` changed. -/
  | changedWithin (start stop : Int)
  /-- The producer made progress. -/
  | completionChanged
  /-- The producer is done. -/
  | ready
deriving DecidableEq, Repr

/-- The notices that a listener has not read yet. -/
structure Mailbox where
  capacity : Nat
  waiting : List Notice
  lost : Nat
deriving DecidableEq, Repr

namespace Mailbox

/-- The least power of two that is not below `n`, at least 1. -/
def roundUp (n : Nat) : Nat := if n ≤ 1 then 1 else 1 <<< ((n - 1).log2 + 1)

/-- An empty mailbox for at least `n` notices. -/
def empty (n : Nat) : Mailbox := ⟨roundUp n, [], 0⟩

/-- Delivers a notice. A full mailbox loses its oldest one. -/
def post (m : Mailbox) (n : Notice) : Mailbox :=
  if m.waiting.length < m.capacity then { m with waiting := m.waiting ++ [n] }
  else { m with waiting := (m.waiting ++ [n]).drop 1, lost := m.lost + 1 }

/-- Delivers notices in order. -/
def postAll (m : Mailbox) (ns : List Notice) : Mailbox := ns.foldl post m

/-- Takes everything out: how many notices were lost, and those that were not. -/
def drain (m : Mailbox) : (Nat × List Notice) × Mailbox :=
  ((m.lost, m.waiting), { m with waiting := [], lost := 0 })

end Mailbox

end AudioHost.Grid
