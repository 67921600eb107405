import AudioHost.Shell.Pattern

/-!
Regular expressions, in the two spellings that line tools know.

A match begins as early as possible, and of those that begin there a longest one counts.
-/

namespace AudioHost.Shell

/-- A regular expression. -/
inductive Regex where
  | empty
  | char (c : Char)
  | any
  | set (outside : Bool) (ms : List Pattern.Member)
  | start
  | finish
  /-- The begin or the end of a word. -/
  | border (atStart : Bool)
  /-- No character of a word stands before, or none after. -/
  | apart (before : Bool)
  | joined (a b : Regex)
  | either (a b : Regex)
  | repeated (a : Regex) (least : Nat) (most : Option Nat)
  | group (n : Nat) (a : Regex)
  /-- The text that a group matched. -/
  | again (n : Nat)

namespace Regex

/-! ## Reading -/

/-- Reads a number in front. -/
def numberInFront (cs : Chars) : Option Nat × Chars :=
  let ds := cs.takeWhile Char.isDigit
  ((String.ofList ds).toNat?, cs.drop ds.length)

/-- Reads the bounds of a repetition up to the closing brace. -/
def bounds? (extended : Bool) (cs : Chars) : Option (Nat × Option Nat × Chars) :=
  let (least, rest) := numberInFront cs
  let (most, rest) : Option Nat × Chars := match rest with
    | ',' :: rest => numberInFront rest
    | rest => (least, rest)
  match extended, rest with
  | true, '\x7d' :: rest => some (least.getD 0, most, rest)
  | false, '\\' :: '\x7d' :: rest => some (least.getD 0, most, rest)
  | _, _ => none

/-- What a character after a backslash stands for, if that is the same in both spellings. -/
def escaped : Char → Regex
  | 'n' => .char '\n'
  | 't' => .char '\t'
  | 'w' => .set false [.all fun c => c.isAlphanum || c = '_']
  | 'W' => .set true [.all fun c => c.isAlphanum || c = '_']
  | 's' => .set false [.all Pattern.isGap]
  | 'S' => .set true [.all Pattern.isGap]
  | 'b' => .either (.border true) (.border false)
  | '<' => .border true
  | '>' => .border false
  | c => if c.isDigit && c ≠ '0' then .again (c.toNat - '0'.toNat) else .char c

/-- The members of a set up to its closing bracket. A backslash is a member like any other. -/
def set? (cs : Chars) : Option (Regex × Chars) :=
  let (outside, rest) : Bool × Chars := match cs with
    | '^' :: rest => (true, rest)
    | cs => (false, cs)
  let glyphs := rest.map fun c => (⟨c, false⟩ : Glyph)
  (Pattern.members? (rest.length + 1) true glyphs).map fun (ms, rest) =>
    (.set outside ms, rest.map Glyph.char)

/-- What comes next in an expression. -/
inductive Mark where
  | opening | closing | bar
  | repeat (least : Nat) (most : Option Nat)
  | single (a : Regex)

/-- The mark in front. -/
def mark? (extended : Bool) (cs : Chars) : Option (Mark × Chars) :=
  match extended, cs with
  | _, [] => none
  | true, '(' :: rest => some (.opening, rest)
  | true, ')' :: rest => some (.closing, rest)
  | true, '|' :: rest => some (.bar, rest)
  | true, '+' :: rest => some (.repeat 1 none, rest)
  | true, '?' :: rest => some (.repeat 0 (some 1), rest)
  | true, '\x7b' :: rest =>
    some (match bounds? true rest with
      | some (least, most, rest) => (.repeat least most, rest)
      | none => (.single (.char '\x7b'), rest))
  | true, '\\' :: c :: rest => some (.single (escaped c), rest)
  | false, '\\' :: '(' :: rest => some (.opening, rest)
  | false, '\\' :: ')' :: rest => some (.closing, rest)
  | false, '\\' :: '|' :: rest => some (.bar, rest)
  | false, '\\' :: '+' :: rest => some (.repeat 1 none, rest)
  | false, '\\' :: '?' :: rest => some (.repeat 0 (some 1), rest)
  | false, '\\' :: '\x7b' :: rest =>
    (bounds? false rest).map fun (least, most, rest) => (.repeat least most, rest)
  | false, '\\' :: c :: rest => some (.single (escaped c), rest)
  | _, '*' :: rest => some (.repeat 0 none, rest)
  | _, '.' :: rest => some (.single .any, rest)
  | _, '^' :: rest => some (.single .start, rest)
  | _, '$' :: rest => some (.single .finish, rest)
  | _, '[' :: rest =>
    some (match set? rest with
      | some (among, rest) => (.single among, rest)
      | none => (.single (.char '['), rest))
  | _, c :: rest => some (.single (.char c), rest)

/-- A mark that stands where it has no meaning stands for itself: a repetition at the begin, and in
the older spelling the ends of lines anywhere else than at the ends. -/
def atPlace (extended atStart : Bool) (m : Mark) (front : Option Char) (rest : Chars) : Mark :=
  let closes := rest.isEmpty || Text.afterPrefix? "\\)".toList rest ≠ none ||
    Text.afterPrefix? "\\|".toList rest ≠ none
  match m, front with
  | .repeat _ _, some '*' => if atStart then .single (.char '*') else m
  | .single .start, _ => if extended || atStart then m else .single (.char '^')
  | .single .finish, _ => if extended || closes then m else .single (.char '$')
  | m, _ => m

/-- Adds an expression after others, of which the last one is apart since it may be repeated. -/
def push (done last : Regex) : Regex := match done with
  | .empty => last
  | done => .joined done last

/-- Reads an expression up to the end of its group: itself, the rest, and the number of groups. -/
def read? (extended : Bool) : Nat → (done last : Regex) → (atStart : Bool) → Nat → Chars →
    Option (Regex × Chars × Nat)
  | 0, _, _, _, _, _ => none
  | n + 1, done, last, atStart, groups, cs =>
    match mark? extended cs with
    | none => if cs.isEmpty then some (push done last, [], groups) else none
    | some (m, rest) =>
      match atPlace extended atStart m cs.head? rest with
      | .closing => some (push done last, cs, groups)
      | .bar => do
        let (other, rest, groups) ← read? extended n .empty .empty true groups rest
        return (.either (push done last) other, rest, groups)
      | .opening => do
        let own := groups + 1
        let (inner, rest, groups) ← read? extended n .empty .empty true own rest
        match mark? extended rest with
        | some (.closing, rest) =>
          read? extended n (push done last) (.group own inner) false groups rest
        | _ => none
      | .repeat least most => read? extended n done (.repeated last least most) false groups rest
      | .single a => read? extended n (push done last) a (a matches .start) groups rest

/-- The expression that a text spells. -/
def ofText? (extended : Bool) (cs : Chars) : Option Regex :=
  match read? extended (2 * cs.length + 2) .empty .empty true 0 cs with
  | some (a, [], _) => some a
  | _ => none

/-! ## Matching -/

/-- A place in a text, with what groups matched. -/
structure Place where
  before : Option Char
  rest : Chars
  /-- The texts from the begins and from the ends of the groups on. -/
  groups : List (Nat × Chars × Chars)

/-- The place after the next character. -/
def Place.step (p : Place) : Place := { p with before := p.rest.head?, rest := p.rest.drop 1 }

/-- The text between two places. -/
def between (first last : Chars) : Chars := first.take (first.length - last.length)

/-- The better of two ends: the one that takes more. -/
def better (a b : Option Place) : Option Place :=
  match a, b with
  | some p, some q => if p.rest.length ≤ q.rest.length then some p else some q
  | some p, none => some p
  | none, b => b

/-- A character of a word. -/
def isWordChar (c : Char) : Bool := c.isAlphanum || c = '_'

/-- The best place after an expression and what follows it. -/
def run (fold : Bool) : Nat → Regex → Place → (Place → Option Place) → Option Place
  | 0, _, _, _ => none
  | n + 1, a, p, next =>
    let same (c d : Char) : Bool := c == d || (fold && c.toLower == d.toLower)
    let wordBefore := (p.before.map isWordChar).getD false
    let wordAfter := (p.rest.head?.map isWordChar).getD false
    match a with
    | .empty => next p
    | .char c => if (p.rest.head?.map (same c)).getD false then next p.step else none
    | .any => if p.rest.isEmpty then none else next p.step
    | .set outside ms =>
      match p.rest with
      | c :: _ =>
        let found := ms.any (Pattern.Member.has c) ||
          (fold && (ms.any (Pattern.Member.has c.toLower) || ms.any (Pattern.Member.has c.toUpper)))
        if found != outside then next p.step else none
      | [] => none
    | .start => if p.before.isNone then next p else none
    | .finish => if p.rest.isEmpty then next p else none
    | .border atStart =>
      if (if atStart then !wordBefore && wordAfter else wordBefore && !wordAfter) then next p
      else none
    | .apart before => if (if before then wordBefore else wordAfter) then none else next p
    | .joined a b => run fold n a p fun q => run fold n b q next
    | .either a b => better (run fold n a p next) (run fold n b p next)
    | .repeated a least most =>
      if most = some 0 then next p
      else
        let more := run fold n a p fun q =>
          if q.rest.length = p.rest.length && least = 0 then none
          else run fold n (.repeated a (least - 1) (most.map (· - 1))) q next
        if least = 0 then better more (next p) else more
    | .group k a =>
      run fold n a p fun q =>
        next { q with groups := (k, p.rest, q.rest) :: q.groups.filter fun g => g.1 != k }
    | .again k =>
      match p.groups.lookup k with
      | none => none
      | some (first, last) =>
        let text := between first last
        match Text.afterPrefix? text p.rest with
        | some rest => next { p with before := text.getLast?.orElse fun _ => p.before, rest }
        | none => none

/-- What an expression matches at a place: the text and the texts of the groups, with the place
after it. -/
structure Found where
  before : Chars
  text : Chars
  groups : List (Nat × Chars)
  after : Place

/-- The first match from a place on. `skipped` is what lies before, in reverse. -/
def search (fold : Bool) (a : Regex) : Nat → Chars → Place → Option Found
  | 0, _, _ => none
  | n + 1, skipped, p =>
    match run fold (64 * p.rest.length + 1024) a { p with groups := [] } some with
    | some q =>
      let groups := q.groups.map fun (k, first, last) => (k, between first last)
      some ⟨skipped.reverse, between p.rest q.rest, groups, q⟩
    | none =>
      match p.rest with
      | c :: _ => search fold a n (c :: skipped) p.step
      | [] => none

/-- The first match in a line. -/
def find? (fold : Bool) (a : Regex) (line : Chars) : Option Found :=
  search fold a (line.length + 1) [] ⟨none, line, []⟩

/-- A line has a match. -/
def isIn (fold : Bool) (a : Regex) (line : Chars) : Bool := (find? fold a line).isSome

/-- An expression has a group. -/
def hasGroup : Regex → Bool
  | .joined a b => a.hasGroup || b.hasGroup
  | .either a b => a.hasGroup || b.hasGroup
  | .repeated a _ _ => a.hasGroup
  | .group _ _ => true
  | _ => false

/-- The expression that stands for a text. -/
def ofPlain (cs : Chars) : Regex := cs.foldr (fun c a => .joined (.char c) a) .empty

/-- What an expression matches at the begin of a text. -/
def inFront? (a : Regex) (text : Chars) : Option Found :=
  (run false (64 * text.length + 1024) a ⟨none, text, []⟩ some).map fun q =>
    ⟨[], between text q.rest, q.groups.map fun (k, first, last) => (k, between first last), q⟩

/-- The matches in a line that hold something, one after the other. -/
def findAll (fold : Bool) (a : Regex) : Nat → Place → List Found
  | 0, _ => []
  | n + 1, p =>
    match search fold a (p.rest.length + 1) [] p with
    | none => []
    | some f =>
      if f.text.isEmpty then
        if f.after.rest.isEmpty then [] else findAll fold a n f.after.step
      else f :: findAll fold a n f.after

end Regex

end AudioHost.Shell
