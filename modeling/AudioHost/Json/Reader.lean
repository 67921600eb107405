import AudioHost.Json.Number

/-!
Reading JSON texts. A text is one value with white space around it. The reader is strict about how
numbers and strings are written and about what follows. What is well written and stands for nothing
is kept as such.
-/

namespace AudioHost.Json

/-! ## White space and literals -/

/-- White space between tokens. -/
def isSpace (c : Char) : Bool := c == ' ' || c == '\n' || c == '\r' || c == '\t'

/-- Skips white space. -/
def skipSpace (cs : List Char) : List Char := cs.dropWhile isSpace

/-- The rest after a word. -/
def afterWord? : List Char → List Char → Option (List Char)
  | [], cs => some cs
  | w :: ws, c :: cs => if w = c then afterWord? ws cs else none
  | _, [] => none

/-! ## Strings -/

/-- The value of a hexadecimal digit. -/
def hexValue? (c : Char) : Option Nat :=
  if c.isDigit then some (c.toNat - '0'.toNat)
  else if 'a' ≤ c ∧ c ≤ 'f' then some (c.toNat - 'a'.toNat + 10)
  else if 'A' ≤ c ∧ c ≤ 'F' then some (c.toNat - 'A'.toNat + 10)
  else none

/-- Reads four hexadecimal digits. -/
def hexUnit? : List Char → Option (Nat × List Char)
  | a :: b :: c :: d :: r => do
    let a ← hexValue? a
    let b ← hexValue? b
    let c ← hexValue? c
    let d ← hexValue? d
    return (((a * 16 + b) * 16 + c) * 16 + d, r)
  | _ => none

/-- Reads what follows `\u`: one unit, or a pair of surrogates. A surrogate that stands alone is no
character. -/
def unicode? (cs : List Char) : Option (Option Char × List Char) := do
  let (u, r) ← hexUnit? cs
  if u < 0xD800 ∨ 0xE000 ≤ u then return (some (Char.ofNat u), r)
  match r with
  | '\\' :: 'u' :: more =>
    let (v, rest) ← hexUnit? more
    if u < 0xDC00 ∧ 0xDC00 ≤ v ∧ v < 0xE000 then
      return (some (Char.ofNat (0x10000 + (u - 0xD800) * 0x400 + (v - 0xDC00))), rest)
    else return (none, r)
  | _ => return (none, r)

/-- Reads what follows a backslash. -/
def escape? : List Char → Option (Option Char × List Char)
  | '"' :: r => some (some '"', r)
  | '\\' :: r => some (some '\\', r)
  | '/' :: r => some (some '/', r)
  | 'b' :: r => some (some (Char.ofNat 8), r)
  | 'f' :: r => some (some (Char.ofNat 12), r)
  | 'n' :: r => some (some '\n', r)
  | 'r' :: r => some (some '\r', r)
  | 't' :: r => some (some '\t', r)
  | 'u' :: r => unicode? r
  | _ => none

/-- Reads the characters of a string up to its closing quote. `done` holds those read so far, in
reverse. There is no string if one of them is no character. -/
def characters? : Nat → List (Option Char) → List Char → Option (Option String × List Char)
  | 0, _, _ => none
  | fuel + 1, done, cs =>
    match cs with
    | '"' :: r => some ((done.reverse.mapM id).map String.ofList, r)
    | '\\' :: r =>
      match escape? r with
      | some (c, r) => characters? fuel (c :: done) r
      | none => none
    | c :: r => if c.toNat < 32 then none else characters? fuel (some c :: done) r
    | [] => none

/-- The value of a string. -/
def stringOf (s : Option String) : Json := s.elim .unfit .string

/-- The object of some fields in reverse. There is none if a name is no string. -/
def objectOf (done : List (Option String × Json)) : Json :=
  let fields := done.reverse.mapM fun (name, j) => Option.map (fun n => (n, j)) name
  fields.elim .unfit .object

/-! ## Values -/

mutual

/-- Reads a value after white space. -/
def value? : Nat → List Char → Option (Json × List Char)
  | 0, _ => none
  | fuel + 1, cs =>
    match skipSpace cs with
    | '"' :: r => (characters? fuel [] r).map fun (s, r) => (stringOf s, r)
    | '[' :: r => match skipSpace r with
      | ']' :: r => some (.array [], r)
      | r => items? fuel [] r
    | '\x7b' :: r => match skipSpace r with
      | '\x7d' :: r => some (.object [], r)
      | r => members? fuel [] r
    | 'n' :: r => (afterWord? "ull".toList r).map fun r => (.null, r)
    | 't' :: r => (afterWord? "rue".toList r).map fun r => (.bool true, r)
    | 'f' :: r => (afterWord? "alse".toList r).map fun r => (.bool false, r)
    | r => number? r

/-- Reads the values of an array and its closing bracket. -/
def items? : Nat → List Json → List Char → Option (Json × List Char)
  | 0, _, _ => none
  | fuel + 1, done, cs =>
    match value? fuel cs with
    | none => none
    | some (j, r) =>
      match skipSpace r with
      | ',' :: r => items? fuel (j :: done) r
      | ']' :: r => some (.array (j :: done).reverse, r)
      | _ => none

/-- Reads the fields of an object and its closing brace. -/
def members? : Nat → List (Option String × Json) → List Char → Option (Json × List Char)
  | 0, _, _ => none
  | fuel + 1, done, cs =>
    match skipSpace cs with
    | '"' :: r =>
      match characters? fuel [] r with
      | none => none
      | some (name, r) =>
        match skipSpace r with
        | ':' :: r =>
          match value? fuel r with
          | none => none
          | some (j, r) =>
            match skipSpace r with
            | ',' :: r => members? fuel ((name, j) :: done) r
            | '\x7d' :: r => some (objectOf ((name, j) :: done), r)
            | _ => none
        | _ => none
    | _ => none

end

/-- Reads a whole text. Every two steps of the reader take at least one character, so twice the
length of the text bounds the number of steps. -/
def ofText? (s : String) : Option Json :=
  let cs := s.toList
  match value? (2 * cs.length + 2) cs with
  | some (j, r) => if (skipSpace r).isEmpty then some j else none
  | none => none

/-! ## Values without faults -/

mutual

/-- Nothing in a value is unfit, and it nests at most so deep. -/
def isSound (depth : Nat) : Json → Bool
  | .unfit => false
  | .array items => decide (0 < depth) && areSound (depth - 1) items
  | .object fields => decide (0 < depth) && haveSound (depth - 1) fields
  | _ => true

def areSound (depth : Nat) : List Json → Bool
  | [] => true
  | j :: js => isSound depth j && areSound depth js

def haveSound (depth : Nat) : List (String × Json) → Bool
  | [] => true
  | (_, j) :: fields => isSound depth j && haveSound depth fields

end

end AudioHost.Json
