/-!
Cutting rows of characters at separators.
-/

namespace AudioHost.Text

/-- The characters before and after the first separator. -/
def splitFirst? (sep : Char) : List Char → Option (List Char × List Char)
  | [] => none
  | c :: cs =>
    if c = sep then some ([], cs)
    else (splitFirst? sep cs).map fun (front, back) => (c :: front, back)

/-- The characters before and after the last separator. -/
def splitLast? (sep : Char) (cs : List Char) : Option (List Char × List Char) :=
  (splitFirst? sep cs.reverse).map fun (back, front) => (front.reverse, back.reverse)

/-- The pieces between all separators; a text without one is a single piece. -/
def splitAll (sep : Char) : List Char → List (List Char)
  | [] => [[]]
  | c :: cs =>
    if c = sep then [] :: splitAll sep cs
    else match splitAll sep cs with
      | [] => [[c]]
      | piece :: pieces => (c :: piece) :: pieces

/-- The first `n` pieces, of which the last one keeps the rest of the text. -/
def splitAtMost (sep : Char) : Nat → List Char → List (List Char)
  | 0, _ => []
  | 1, cs => [cs]
  | n + 2, cs => match splitFirst? sep cs with
    | some (front, back) => front :: splitAtMost sep (n + 1) back
    | none => [cs]

/-- The rest after a row of characters in front. -/
def afterPrefix? : List Char → List Char → Option (List Char)
  | [], cs => some cs
  | p :: ps, c :: cs => if p = c then afterPrefix? ps cs else none
  | _, [] => none

/-- The characters before and after the first place where a row of characters stands. -/
def splitAround? (mark : List Char) : List Char → Option (List Char × List Char)
  | [] => if mark.isEmpty then some ([], []) else none
  | c :: cs => match afterPrefix? mark (c :: cs) with
    | some back => some ([], back)
    | none => (splitAround? mark cs).map fun (front, back) => (c :: front, back)

/-- Removes one character from the end if it stands there. -/
def dropLastIf (c : Char) (cs : List Char) : List Char :=
  if cs.getLast? = some c then cs.dropLast else cs

/-- The lines of a text. A line ends at a line feed, with a carriage return before it or not; what
follows the last line feed is a line if it is not empty. -/
def lines (cs : List Char) : List (List Char) :=
  let pieces := splitAll '\n' cs
  pieces.dropLast.map (dropLastIf '\r') ++
    match pieces.getLast? with
    | some [] => []
    | some rest => [rest]
    | none => []

/-- White space as Unicode has it. -/
def isBlank (c : Char) : Bool :=
  let n := c.toNat
  (9 ≤ n && n ≤ 13) || n == 0x20 || n == 0x85 || n == 0xA0 || n == 0x1680 ||
    (0x2000 ≤ n && n ≤ 0x200A) || n == 0x2028 || n == 0x2029 || n == 0x202F || n == 0x205F ||
    n == 0x3000

/-- Removes white space at both ends. -/
def trim (cs : List Char) : List Char :=
  ((cs.dropWhile isBlank).reverse.dropWhile isBlank).reverse

end AudioHost.Text
