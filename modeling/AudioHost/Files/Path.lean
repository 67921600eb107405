import AudioHost.Text.Split

/-!
Paths of files.

A path keeps its text as it was given. What it names is decided by its parts: a leading `/`, a
leading `.`, `..` and names. Empty parts and further `.` parts do not count, so two paths with
different texts can be equal by parts.
-/

namespace AudioHost

/-- A path, as its text. -/
structure Path where
  text : String
deriving DecidableEq, Repr, Inhabited

namespace Path

/-- One part of a path. -/
inductive Part where
  | root
  | here
  | up
  | name (cs : List Char)
deriving DecidableEq, Repr

/-- The characters of a path. -/
def chars (p : Path) : List Char := p.text.toList

/-- The path starts at the root. -/
def isAbsolute (p : Path) : Bool := p.chars.head? == some '/'

/-- The part that a piece between slashes stands for, if it counts. -/
def partOf (piece : List Char) : Option Part :=
  if piece = [] ∨ piece = ['.'] then none
  else if piece = ['.', '.'] then some .up
  else some (.name piece)

/-- The parts of a path. -/
def parts (p : Path) : List Part :=
  let pieces := Text.splitAll '/' p.chars
  let lead := if p.isAbsolute then [.root] else if pieces.head? = some ['.'] then [.here] else []
  lead ++ pieces.filterMap partOf

/-- Two paths are the same if their parts are. -/
def same (p q : Path) : Bool := p.parts == q.parts

theorem same_refl (p : Path) : p.same p = true := by
  simp [same]

theorem same_comm (p q : Path) : p.same q = q.same p := by
  simp [same, Bool.beq_comm]

/-- Paths that are the same are the same as the same paths. -/
theorem same_congr {p q : Path} (h : p.same q = true) (r : Path) : p.same r = q.same r := by
  have hparts : p.parts = q.parts := by simpa [same] using h
  rw [same, hparts, same]

/-! ## Order -/

/-- The rank of a part among parts of different kinds. -/
def Part.rank : Part → Nat
  | .root => 0
  | .here => 1
  | .up => 2
  | .name _ => 3

/-- A part comes before or is another; names are in the order of their characters. -/
def Part.le : Part → Part → Bool
  | .name a, .name b => decide (String.ofList a ≤ String.ofList b)
  | a, b => decide (a.rank ≤ b.rank)

/-- The parts come before or are others, the first difference deciding. -/
def partsLe : List Part → List Part → Bool
  | [], _ => true
  | _ :: _, [] => false
  | a :: as, b :: bs => if a = b then partsLe as bs else a.le b

/-- The order of paths by their parts. -/
def le (p q : Path) : Bool := partsLe p.parts q.parts

/-! ## Taking paths apart -/

/-- The last name of a path, if a name stands last. -/
def fileName? (p : Path) : Option (List Char) :=
  match p.parts.getLast? with
  | some (.name cs) => some cs
  | _ => none

/-- A name without its extension: all before the last dot, unless nothing is. -/
def stemOf (name : List Char) : List Char :=
  match Text.splitLast? '.' name with
  | some (front, _) => if front.isEmpty then name else front
  | none => name

/-- The last name of a path without its extension. -/
def fileStem? (p : Path) : Option (List Char) := p.fileName?.map stemOf

/-- Drops from the reversed characters of a path what does not count at its end: slashes and lone
dots. The first argument bounds the steps. A slash or dot that is the whole rest stays. -/
def trimEnd : Nat → List Char → List Char
  | 0, cs => cs
  | n + 1, cs => match cs with
    | '/' :: c :: rest => trimEnd n (c :: rest)
    | '.' :: '/' :: c :: rest => trimEnd n (c :: rest)
    | '.' :: ['/'] => ['/']
    | cs => cs

/-- The path without its last part; none for an empty path and the root. -/
def parent? (p : Path) : Option Path :=
  let back := p.chars.reverse
  let cut (n : Nat) : Option Path :=
    let rest := trimEnd back.length (trimEnd back.length back |>.drop n)
    some ⟨String.ofList rest.reverse⟩
  match p.parts.getLast? with
  | some (.name cs) => cut cs.length
  | some .up => cut 2
  | some .here => cut 1
  | some .root => none
  | none => none

/-- A path below another; an absolute one takes its place. -/
def join (base : Path) (name : String) : Path :=
  if name.toList.head? = some '/' then ⟨name⟩
  else if base.text.isEmpty || base.chars.getLast? == some '/' then ⟨base.text ++ name⟩
  else ⟨base.text ++ "/" ++ name⟩

end Path

end AudioHost
