import AudioHost.Shell.Syntax

/-!
Patterns of shell scripts: `*` stands for any text, `?` for any character, and brackets for one
character of a set. Quoted characters stand for themselves.
-/

namespace AudioHost.Shell

/-- A character of a word, and whether it was quoted. -/
structure Glyph where
  char : Char
  quoted : Bool
deriving DecidableEq, Repr

namespace Pattern

/-! ## Sets of characters -/

/-- A member of a set. -/
inductive Member where
  | single (c : Char)
  | range (first last : Char)
  | all (test : Char → Bool)

/-- A character that leaves a mark. -/
def isGraphic (c : Char) : Bool := '!' ≤ c && c ≤ '~'

/-- A character that is a gap. -/
def isGap (c : Char) : Bool := c = ' ' || ('\t' ≤ c && c ≤ '\r')

/-- The sets that have names. -/
def classes : List (String × (Char → Bool)) :=
  [("alnum", Char.isAlphanum), ("alpha", Char.isAlpha), ("blank", fun c => c = ' ' || c = '\t'),
    ("cntrl", fun c => c < ' ' || c.toNat = 127), ("digit", Char.isDigit), ("graph", isGraphic),
    ("lower", Char.isLower), ("print", fun c => c = ' ' || isGraphic c),
    ("punct", fun c => isGraphic c && !c.isAlphanum), ("space", isGap), ("upper", Char.isUpper),
    ("xdigit", fun c => c.isDigit || ('a' ≤ c && c ≤ 'f') || ('A' ≤ c && c ≤ 'F'))]

/-- The place of a byte among bytes, of which those from 128 on come first. -/
def byteRank (c : Char) : Nat := (c.toNat + 128) % 256

/-- A member of a set has a character. -/
def Member.has (c : Char) : Member → Bool
  | .single m => c == m
  | .range first last => byteRank first ≤ byteRank c && byteRank c ≤ byteRank last
  | .all test => test c

/-- The named set whose name comes next, after an opening bracket in a set. -/
def classInFront? (gs : List Glyph) : Option ((Char → Bool) × List Glyph) :=
  classes.findSome? fun (name, test) =>
    let text := ':' :: name.toList ++ [':', ']']
    let front := gs.take text.length
    if front.map Glyph.char = text && front.all fun g => !g.quoted then
      some (test, gs.drop text.length)
    else none

/-! ## Elements -/

/-- One element of a pattern. -/
inductive Element where
  | char (c : Char)
  | any
  | run
  | set (outside : Bool) (ms : List Member)

/-- The members of a set up to its closing bracket, which may also be the first one. -/
def members? : Nat → Bool → List Glyph → Option (List Member × List Glyph)
  | 0, _, _ => none
  | _, _, [] => none
  | fuel + 1, first, g :: gs =>
    let more (m : Member) (rest : List Glyph) : Option (List Member × List Glyph) :=
      (members? fuel false rest).map fun (ms, r) => (m :: ms, r)
    if g.char = ']' && !g.quoted && !first then some ([], gs)
    else match if g.char = '[' && !g.quoted then classInFront? gs else none with
      | some (test, rest) => more (.all test) rest
      | none =>
        match gs with
        | dash :: last :: rest =>
          if dash.char = '-' && !dash.quoted && !(last.char = ']' && !last.quoted) then
            more (.range g.char last.char) rest
          else more (.single g.char) gs
        | gs => more (.single g.char) gs

/-- Reads a set after its opening bracket. -/
def set? (gs : List Glyph) : Option (Element × List Glyph) :=
  match gs with
  | g :: rest =>
    if !g.quoted && g.char = '!' then
      (members? (rest.length + 1) true rest).map fun (ms, r) => (.set true ms, r)
    else (members? (gs.length + 1) true gs).map fun (ms, r) => (.set false ms, r)
  | [] => none

/-- The elements of a pattern. A bracket that is not closed stands for itself. -/
def elements : Nat → List Glyph → List Element
  | 0, _ => []
  | _, [] => []
  | fuel + 1, g :: gs =>
    if g.quoted then .char g.char :: elements fuel gs
    else if g.char = '*' then .run :: elements fuel gs
    else if g.char = '?' then .any :: elements fuel gs
    else if g.char = '[' then
      match set? gs with
      | some (e, rest) => e :: elements fuel rest
      | none => .char '[' :: elements fuel gs
    else .char g.char :: elements fuel gs

/-- A backslash that is not quoted quotes the character after it. -/
def withoutEscapes : List Glyph → List Glyph
  | [] => []
  | [g] => [g]
  | g :: h :: gs =>
    if g.char = '\\' && !g.quoted then ⟨h.char, true⟩ :: withoutEscapes gs
    else g :: withoutEscapes (h :: gs)

/-- The elements of a word that is a pattern. -/
def ofGlyphs (gs : List Glyph) : List Element := elements (gs.length + 1) (withoutEscapes gs)

/-! ## Matching -/

/-- Any number of characters in front is skipped, and `rest` accepts what is left. -/
def skipRun (rest : Chars → Bool) : Chars → Bool
  | [] => rest []
  | c :: cs => rest (c :: cs) || skipRun rest cs

/-- Elements accept characters. -/
def accepts : List Element → Chars → Bool
  | [], cs => cs.isEmpty
  | .run :: .run :: es, cs => accepts (.run :: es) cs
  | .run :: es, cs => skipRun (accepts es) cs
  | .char m :: es, c :: cs => m == c && accepts es cs
  | .any :: es, _ :: cs => accepts es cs
  | .set outside ms :: es, c :: cs => (ms.any (Member.has c) != outside) && accepts es cs
  | _ :: _, [] => false

/-- A pattern matches a text. -/
def matchesText (gs : List Glyph) (cs : Chars) : Bool := accepts (ofGlyphs gs) cs

/-- The text without what a pattern matches in front. -/
def dropFront (most : Bool) (gs : List Glyph) (cs : Chars) : Chars :=
  let es := ofGlyphs gs
  let lengths := List.range (cs.length + 1)
  let lengths := if most then lengths.reverse else lengths
  match lengths.find? fun n => accepts es (cs.take n) with
  | some n => cs.drop n
  | none => cs

/-- The text without what a pattern matches at the end. -/
def dropBack (most : Bool) (gs : List Glyph) (cs : Chars) : Chars :=
  let es := ofGlyphs gs
  let lengths := List.range (cs.length + 1)
  let lengths := if most then lengths else lengths.reverse
  match lengths.find? fun n => accepts es (cs.drop n) with
  | some n => cs.take n
  | none => cs

end Pattern

end AudioHost.Shell
