import AudioHost.Shell.Pattern
import AudioHost.Shell.State

/-!
Fields: the texts that words stand for when they are expanded.

A word is expanded to a row of items. Where separators stand in a value that is not quoted the row
is cut, and a field that is a pattern stands for the names of the files that it matches.
-/

namespace AudioHost.Shell

/-- What a word is expanded to. -/
inductive Item where
  | glyph (g : Glyph)
  /-- A character that may separate fields. -/
  | separator (c : Char)
  /-- Between parameters that stand for a field each. -/
  | border
  /-- Between parameters that are cut themselves. -/
  | gap
  /-- A value begins, which is the parameters that stand for a field each, or another one. -/
  | opening (whole : Bool)
  /-- A field is here, even if it is empty. -/
  | present
deriving DecidableEq, Repr

namespace Item

/-- Quoted characters. -/
def quoted (cs : Chars) : List Item := cs.map fun c => .glyph ⟨c, true⟩

/-- Characters that are not quoted and are not cut. -/
def plain (cs : Chars) : List Item := cs.map fun c => .glyph ⟨c, false⟩

/-- Characters that are cut at separators. -/
def divided (separators : Chars) (cs : Chars) : List Item :=
  cs.map fun c => if separators.contains c then .separator c else .glyph ⟨c, false⟩

/-- The glyphs of items that are not cut. -/
def glyphs (items : List Item) : List Glyph :=
  items.filterMap fun i => match i with
    | .glyph g => some g
    | .separator c => some ⟨c, false⟩
    | _ => none

/-- The characters of items that are not cut. -/
def chars (items : List Item) : Chars := (glyphs items).map Glyph.char

end Item

/-! ## Cutting -/

/-- A separator that does not count at the ends of fields. -/
def isBlank (c : Char) : Bool := c = ' ' || c = '\t' || c = '\n'

/-- What has been seen while items are cut. -/
structure Cutting where
  /-- The field that has begun, in reverse. -/
  field : Option (List Glyph)
  /-- Blanks ended a field, and another separator right after them ends no further one. -/
  afterBlank : Bool
  /-- The value is the parameters that stand for a field each. -/
  whole : Bool
  /-- The value before it was. -/
  afterWhole : Bool

/-- Cuts items into fields. In a value that comes after parameters that stand for a field each, a
blank separates fields like any other separator. -/
def cutFields : Cutting → List Item → List (List Glyph)
  | c, [] => if c.whole then [(c.field.getD []).reverse] else (c.field.map List.reverse).toList
  | c, .glyph g :: is =>
    cutFields { c with field := some (g :: c.field.getD []), afterBlank := false } is
  | c, .present :: is =>
    cutFields { c with field := some (c.field.getD []), afterBlank := false } is
  | c, .opening whole :: is =>
    cutFields { c with afterBlank := false, whole, afterWhole := c.whole } is
  | c, .border :: is =>
    (c.field.getD []).reverse :: cutFields { c with field := none, afterBlank := false } is
  | c, .gap :: is => if skips c true then cutFields (skip c true) is
    else (c.field.getD []).reverse :: cutFields (ended c true) is
  | c, .separator s :: is => if skips c (isBlank s) then cutFields (skip c (isBlank s)) is
    else (c.field.getD []).reverse :: cutFields (ended c (isBlank s)) is
where
  /-- A separator ends no field. -/
  skips (c : Cutting) (blank : Bool) : Bool :=
    c.afterBlank || (blank && c.field.isNone && !c.afterWhole)
  /-- A separator was skipped. -/
  skip (c : Cutting) (blank : Bool) : Cutting := { c with afterBlank := c.afterBlank && blank }
  /-- A separator ended a field. -/
  ended (c : Cutting) (blank : Bool) : Cutting :=
    { c with field := none, afterBlank := blank && !c.afterWhole }

/-- The fields of items. -/
def fieldsOf (items : List Item) : List (List Glyph) :=
  cutFields ⟨none, false, false, false⟩ items

/-- Drops blanks that separate fields. -/
def dropBlanks (items : List Item) : List Item :=
  items.dropWhile fun i => match i with
    | .separator c => isBlank c
    | _ => false

/-- Drops blanks that separate fields, at both ends. -/
def trimBlanks (items : List Item) : List Item :=
  (dropBlanks (dropBlanks items).reverse).reverse

/-- Cuts a field off the front: it goes up to a separator, and blanks around that do not count. -/
def firstField (items : List Item) : Chars × List Item :=
  let isPart (i : Item) : Bool := match i with
    | .separator _ => false
    | _ => true
  let items := dropBlanks items
  let field := Item.chars (items.takeWhile isPart)
  let rest := items.dropWhile isPart
  match dropBlanks rest with
  | .separator c :: more => (field, if isBlank c then .separator c :: more else dropBlanks more)
  | more => (field, more)

/-- Gives the fields of a line to some names. The last one gets the rest of the line, without a
separator at its end if that ends its only field. -/
def giveFields : List String → List Item → List (String × Chars)
  | [], _ => []
  | [name], items =>
    match fieldsOf items with
    | [] => [(name, [])]
    | [gs] => [(name, gs.map Glyph.char)]
    | _ => [(name, Item.chars (trimBlanks items))]
  | name :: names, items =>
    let (field, rest) := firstField items
    (name, field) :: giveFields names rest

/-! ## Names of files -/

/-- A field has a character that makes it a pattern. -/
def isPattern (gs : List Glyph) : Bool :=
  gs.any fun g => !g.quoted && ['*', '?', '['].contains g.char

/-- Cuts a field at its slashes. -/
def cutSlashes : List Glyph → List (List Glyph)
  | [] => [[]]
  | g :: gs =>
    if g.char = '/' then [] :: cutSlashes gs
    else match cutSlashes gs with
      | [] => [[g]]
      | part :: parts => (g :: part) :: parts

/-- The names in a directory that a pattern matches, in the order of their bytes. A dot in front
has to be written. -/
def matchingNames (names : List Chars) (part : List Glyph) : List Chars :=
  let hidden := (part.head?.map fun g => g.char == '.').getD false
  let dots := if hidden then [['.'], ['.', '.']] else []
  let found := (dots ++ names).filter fun cs =>
    (hidden || cs.head? ≠ some '.') && Pattern.matchesText part cs
  found.mergeSort bytesLe

/-- The names of files below a directory that the parts of a pattern match. `front` is what was
matched so far. -/
def matchingFiles (s : State) : List (List Glyph) → Chars → List Chars
  | [], _ => []
  | [part], front =>
    if isPattern part then (matchingNames (namesIn front) part).map (front ++ ·)
    else
      let name := part.map Glyph.char
      let path := front ++ name
      let there := s.files.reaches (s.pathOf path) ||
        (s.files.entryIn? (directory front) (textOf name).toList).isSome
      if there then [path] else []
  | part :: parts, front =>
    if isPattern part then
      let found := (matchingNames (namesIn front) part).filter fun cs =>
        s.files.isDirectory (s.pathOf (front ++ cs))
      found.flatMap fun cs => matchingFiles s parts (front ++ cs ++ ['/'])
    else matchingFiles s parts (front ++ part.map Glyph.char ++ ['/'])
where
  /-- The directory that has been matched so far. -/
  directory (front : Chars) : Path := s.pathOf (if front.isEmpty then ['.'] else front)
  /-- The names in a directory. -/
  namesIn (front : Chars) : List Chars :=
    ((s.files.names? (directory front)).getD []).map fun name => charsOf (String.ofList name)

/-- The texts that a field stands for. -/
def textsOf (s : State) (gs : List Glyph) : List Chars :=
  let text := gs.map Glyph.char
  if s.options.contains 'f' || !isPattern gs then [text]
  else match matchingFiles s (cutSlashes gs) [] with
    | [] => [text]
    | found => found

end AudioHost.Shell
