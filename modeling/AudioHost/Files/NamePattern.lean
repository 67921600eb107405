/-!
Patterns for file names.

`?` stands for one character, `*` for any run of characters, `[…]` for one character of a set and
`[!…]` for one outside it. `**` stands for any run of directories and may only be a whole part of
the pattern. ASCII letters are compared without regard to case, and no wildcard matches a slash.
-/

namespace AudioHost

namespace NamePattern

/-- A member of a set of characters. -/
inductive Member where
  | single (c : Char)
  | range (first last : Char)
deriving DecidableEq, Repr

/-- One element of a pattern. -/
inductive Token where
  | char (c : Char)
  | any
  | run
  | directories
  | within (ms : List Member)
  | outside (ms : List Member)
deriving DecidableEq, Repr

end NamePattern

/-- A pattern that was read. -/
structure NamePattern where
  tokens : List NamePattern.Token
deriving DecidableEq, Repr

namespace NamePattern

/-! ## Reading -/

/-- The members of a set, from the characters between its brackets. -/
def members : List Char → List Member
  | a :: '-' :: b :: cs => .range a b :: members cs
  | a :: cs => .single a :: members cs
  | [] => []

/-- The characters up to a closing bracket and the rest after it; at least one character stands
before the bracket, and it may be a bracket itself. -/
def set? : List Char → Option (List Char × List Char)
  | [] => none
  | c :: cs =>
    let inner := cs.takeWhile (· ≠ ']')
    match cs.dropWhile (· ≠ ']') with
    | _ :: rest => some (c :: inner, rest)
    | [] => none

/-- Reads a set after its opening bracket. -/
def readSet? : List Char → Option (Token × List Char)
  | '!' :: cs => (set? cs).map fun (inner, rest) => (.outside (members inner), rest)
  | cs => (set? cs).map fun (inner, rest) => (.within (members inner), rest)

/-- Reads what follows two stars: the end, or a slash and the rest. -/
def afterStars? : List Char → Option (List Char)
  | [] => some []
  | '/' :: cs => some cs
  | _ => none

/-- Reads tokens. `atStart` says that a part of the pattern begins here. -/
def read? : Nat → Bool → List Char → Option (List Token)
  | 0, _, _ => none
  | _ + 1, _, [] => some []
  | n + 1, atStart, c :: cs =>
    if c = '?' then (read? n false cs).map (.any :: ·)
    else if c = '*' then
      let more := cs.takeWhile (· = '*')
      let rest := cs.dropWhile (· = '*')
      match more.length with
      | 0 => (read? n false rest).map (.run :: ·)
      | 1 =>
        if atStart then
          match afterStars? rest with
          | some rest => (read? n true rest).map (.directories :: ·)
          | none => none
        else none
      | _ => none
    else if c = '[' then
      match readSet? cs with
      | some (token, rest) => (read? n false rest).map (token :: ·)
      | none => none
    else (read? n (c == '/') cs).map (.char c :: ·)

/-- Reads a pattern; nothing if it is malformed. -/
def ofText? (s : String) : Option NamePattern :=
  (read? (s.toList.length + 1) true s.toList).map (⟨·⟩)

/-! ## Matching -/

/-- The character is ASCII. -/
def isAscii (c : Char) : Bool := c.toNat < 128

/-- Two characters are equal, or ASCII letters that differ in case only. -/
def sameChar (a b : Char) : Bool :=
  if isAscii a && isAscii b then a.toLower == b.toLower else a == b

/-- A member of a set has a character. The ends of a range are compared without regard to case if
both are ASCII letters. -/
def Member.has (c : Char) : Member → Bool
  | .single m => sameChar c m
  | .range first last =>
    let folded := isAscii c && isAscii first && isAscii last && first.isAlpha && last.isAlpha &&
      first.toLower ≤ c.toLower && c.toLower ≤ last.toLower
    folded || (first ≤ c && c ≤ last)

/-- A token that takes one character takes this one. -/
def Token.takes (c : Char) : Token → Bool
  | .char m => sameChar c m
  | .any => c != '/'
  | .within ms => c != '/' && ms.any (Member.has c)
  | .outside ms => c != '/' && !ms.any (Member.has c)
  | .run => false
  | .directories => false

/-- A run of characters in front is skipped, and `rest` accepts what is left. -/
def skipRun (rest : List Char → Bool) : List Char → Bool
  | [] => rest []
  | c :: cs => rest (c :: cs) || (c != '/' && skipRun rest cs)

/-- Whole directories in front are skipped, or everything is, and `rest` accepts what is left. -/
def skipDirectories (rest : List Char → Bool) (cs : List Char) : Bool :=
  rest cs || later cs
where
  later : List Char → Bool
    | [] => rest []
    | c :: cs => (c == '/' && rest cs) || later cs

/-- The tokens accept the characters. -/
def accepts : List Token → List Char → Bool
  | [], cs => cs.isEmpty
  | .run :: ts, cs => skipRun (accepts ts) cs
  | .directories :: ts, cs => skipDirectories (accepts ts) cs
  | t :: ts, c :: cs => t.takes c && accepts ts cs
  | _ :: _, [] => false

/-- The pattern matches a file name. -/
def matchesName (p : NamePattern) (name : List Char) : Bool := accepts p.tokens name

end NamePattern

end AudioHost
