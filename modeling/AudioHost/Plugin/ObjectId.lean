/-!
Identifiers of objects: 128 bits, written in hexadecimal digits in groups.
-/

namespace AudioHost

/-- The 32 hexadecimal digits of an identifier. -/
structure ObjectId where
  digits : List Char
deriving DecidableEq, Repr

namespace ObjectId

/-- The lengths of the groups between hyphens. -/
def groups : List Nat := [8, 4, 4, 4, 12]

/-- A hexadecimal digit in lower case, if the character is one. -/
def digit? (c : Char) : Option Char :=
  let c := c.toLower
  if c.isDigit ∨ ('a' ≤ c ∧ c ≤ 'f') then some c else none

/-- Reads digits that stand in groups with hyphens between them. -/
def grouped? : List Nat → List Char → Option (List Char)
  | [], cs => if cs.isEmpty then some [] else none
  | [n], cs => if cs.length = n then cs.mapM digit? else none
  | n :: ns, cs => do
    let front ← (cs.take n).mapM digit?
    if front.length = n ∧ (cs.drop n).head? = some '-' then
      return front ++ (← grouped? ns (cs.drop (n + 1)))
    else none

/-- The part of a text that holds the digits: without braces around it or a mark in front. -/
def bare (cs : List Char) : List Char :=
  if (cs.take 9).map Char.toLower = "urn:uuid:".toList then cs.drop 9
  else if cs.head? = some '\x7b' ∧ cs.getLast? = some '\x7d' then (cs.drop 1).dropLast
  else cs

/-- Reads an identifier: 32 digits, or digits in groups, these also in braces or after a mark. -/
def ofText? (s : String) : Option ObjectId :=
  let cs := s.toList
  if cs.length = 32 then (cs.mapM digit?).map (⟨·⟩)
  else (grouped? groups (bare cs)).map (⟨·⟩)

/-- Digits in groups. -/
def join : List Nat → List Char → List Char
  | [], _ => []
  | [n], cs => cs.take n
  | n :: ns, cs => cs.take n ++ '-' :: join ns (cs.drop n)

/-- The text of an identifier, in groups. -/
def text (id : ObjectId) : String := String.ofList (join groups id.digits)

end ObjectId

end AudioHost
