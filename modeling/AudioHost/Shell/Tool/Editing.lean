import AudioHost.Shell.Tool.Search
import AudioHost.Shell.Words

/-!
The editor of lines: a list of instructions is carried out for each line of its input.
-/

namespace AudioHost.Shell.Tool.Editing

open Run

/-! ## Instructions -/

/-- A part of the text that takes the place of a match. -/
inductive Part where
  | plain (cs : Chars)
  /-- A group of the match, or all of it. -/
  | group (n : Nat)
  /-- The case of what follows: a letter for all of it or for its first character. -/
  | shift (c : Char)

/-- The lines that an instruction is for. -/
inductive Address where
  | line (n : Nat)
  | last
  /-- The lines with a match. Without an expression the last one that was used counts. -/
  | matching (a : Option Regex) (fold : Bool)
  /-- Every so many lines from one on. -/
  | every (first step : Nat)
  /-- Some lines more. -/
  | more (n : Nat)

/-- What an instruction does. -/
inductive Act where
  | opens
  | closes
  | label (name : Chars)
  | jump (name : Chars)
  /-- Jumps if a line was changed, or if none was. -/
  | jumpIf (changed : Bool) (name : Chars)
  | substitute (a : Option Regex) (fold : Bool) (new : List Part) (place : Nat)
      (every prints : Bool)
  | map (pairs : List (Char × Char))
  | append (text : Chars)
  | insert (text : Chars)
  | change (text : Chars)
  | delete
  | deleteFirst
  | print
  | printFirst
  | number
  | next
  | nextToo
  | quit (silent : Bool) (status : Nat)
  | keep
  | keepToo
  | bring
  | bringToo
  | swap

/-- The editor ends with the instruction. -/
def Act.isLeaving : Act → Bool
  | .quit _ _ => true
  | _ => false

/-- An instruction with the lines that it is for. Its number tells it from others. -/
structure Instruction where
  id : Nat
  first : Option Address
  second : Option Address
  negated : Bool
  act : Act

/-! ## Reading instructions -/

/-- Takes the characters in front for as long as a test holds. -/
def takeWhile (test : Char → Bool) : Reading Chars := do
  let cs ← get
  set (cs.dropWhile test)
  return cs.takeWhile test

/-- The character in front, which stays there. -/
def peek : Reading (Option Char) := do return (← get).head?

/-- Takes the character in front. -/
def take : Reading Char := do
  match ← get with
  | c :: cs =>
    set cs
    return c
  | [] => failure

/-- The text up to a mark, which may stand in it after a backslash, and the rest after the mark. -/
def untilMark (mark : Char) (brackets : Bool) : Bool → Chars → Option (Chars × Chars)
  | _, [] => none
  | inside, '\\' :: c :: cs =>
    let kept : Chars :=
      if inside then ['\\', c]
      else if c = mark then (if mark = '\n' then ['\n'] else [c])
      else if c = 'n' && brackets then ['\n']
      else ['\\', c]
    (untilMark mark brackets inside cs).map fun (front, back) => (kept ++ front, back)
  | inside, c :: cs =>
    if c = mark && !inside then some ([], cs)
    else
      let inside := if c = '[' && brackets then true else if c = ']' then false else inside
      (untilMark mark brackets inside cs).map fun (front, back) => (c :: front, back)

/-- Takes the text up to a mark. -/
def textUntil (mark : Char) (brackets : Bool) : Reading Chars := do
  match untilMark mark brackets false (← get) with
  | some (front, back) =>
    set back
    return front
  | none => failure

/-- Reads an expression. Nothing stands for the last one. -/
def regex (extended : Bool) (text : Chars) : Reading (Option Regex) :=
  if text.isEmpty then return none
  else match Regex.ofText? extended text with
    | some a => return some a
    | none => failure

/-- Takes a number. -/
def number : Reading Nat := do return Number.natural 10 (← takeWhile Char.isDigit)

/-- Takes an address if one comes next. -/
def address? (extended : Bool) : Reading (Option Address) := do
  let expression (mark : Char) : Reading (Option Address) := do
    let a ← regex extended (← textUntil mark true)
    let flags ← takeWhile fun c => c = 'I' || c = 'M'
    return some (.matching a (flags.contains 'I'))
  match ← get with
  | '$' :: cs =>
    set cs
    return some .last
  | '/' :: cs =>
    set cs
    expression '/'
  | '\\' :: mark :: cs =>
    set cs
    expression mark
  | '+' :: cs =>
    set cs
    return some (.more (← number))
  | c :: _ =>
    if !c.isDigit then return none
    let first ← number
    match ← get with
    | '~' :: cs =>
      set cs
      return some (.every first (← number))
    | _ => return some (.line first)
  | [] => return none

/-- The parts of a text that takes the place of a match. -/
def parts : Nat → Chars → List Part
  | 0, _ => []
  | _, [] => []
  | n + 1, '&' :: cs => .group 0 :: parts n cs
  | n + 1, '\\' :: c :: cs =>
    if c.isDigit then .group (c.toNat - '0'.toNat) :: parts n cs
    else if "ULEul".toList.contains c then .shift c :: parts n cs
    else if c = 'n' then .plain ['\n'] :: parts n cs
    else if c = 't' then .plain ['\t'] :: parts n cs
    else .plain [c] :: parts n cs
  | n + 1, c :: cs => .plain [c] :: parts n cs

/-- Takes the text of an instruction, up to the end of its last line. -/
def textLines : Reading Chars := do
  let _ ← takeWhile fun c => c = ' ' || c = '\t'
  match ← get with
  | '\\' :: cs =>
    let rest := cs.dropWhile fun c => c = ' ' || c = '\t'
    set (match rest with
      | '\n' :: rest => rest
      | _ => cs)
  | _ => pure ()
  let (text, rest) := lines (← get)
  set rest
  return text ++ ['\n']
where
  /-- The text up to the end of a line that has no backslash in front of it. -/
  lines : Chars → Chars × Chars
    | [] => ([], [])
    | '\\' :: c :: cs => let (front, back) := lines cs; (c :: front, back)
    | '\n' :: cs => ([], cs)
    | c :: cs => let (front, back) := lines cs; (c :: front, back)

/-- Takes what is between an instruction and the next one. -/
def finish : Reading Unit := do
  let _ ← takeWhile fun c => c = ' ' || c = '\t'
  match ← get with
  | '}' :: _ => return
  | '#' :: _ => return
  | ';' :: cs => set cs
  | '\n' :: cs => set cs
  | [] => return
  | _ => failure

/-- Takes the name of a label. -/
def name : Reading Chars := do
  let _ ← takeWhile fun c => c = ' ' || c = '\t'
  takeWhile fun c => c ≠ ';' && c ≠ '\n' && c ≠ '}' && c ≠ ' '

/-- Takes the flags of a substitution. -/
def flags : Reading (Nat × Chars) := do
  let front ← takeWhile fun c => "gpiIMm".toList.contains c
  let place ← takeWhile Char.isDigit
  let back ← takeWhile fun c => "gpiIMm".toList.contains c
  return (if place.isEmpty then 1 else Number.natural 10 place, front ++ back)

/-- Takes what an instruction does. -/
def act (extended : Bool) : Reading Act := do
  let plain (a : Act) : Reading Act := do
    finish
    return a
  let c ← take
  match c with
  | '\x7b' => return .opens
  | '\x7d' => plain .closes
  | ':' => plain (.label (← name))
  | 'b' => plain (.jump (← name))
  | 't' => plain (.jumpIf true (← name))
  | 'T' => plain (.jumpIf false (← name))
  | 's' =>
    let mark ← take
    let a ← regex extended (← textUntil mark true)
    let new ← textUntil mark false
    let (place, letters) ← flags
    let has (c : Char) : Bool := letters.contains c
    plain (.substitute a (has 'i' || has 'I') (parts new.length new) place (has 'g') (has 'p'))
  | 'y' =>
    let mark ← take
    let front ← textUntil mark true
    let back ← textUntil mark true
    if front.length ≠ back.length then failure
    plain (.map (front.zip back))
  | 'a' => return .append (← textLines)
  | 'i' => return .insert (← textLines)
  | 'c' => return .change (← textLines)
  | 'd' => plain .delete
  | 'D' => plain .deleteFirst
  | 'p' => plain .print
  | 'P' => plain .printFirst
  | '=' => plain .number
  | 'n' => plain .next
  | 'N' => plain .nextToo
  | 'q' => quitting false
  | 'Q' => quitting true
  | 'h' => plain .keep
  | 'H' => plain .keepToo
  | 'g' => plain .bring
  | 'G' => plain .bringToo
  | 'x' => plain .swap
  | _ => failure
where
  /-- Takes the result that the editor ends with. -/
  quitting (silent : Bool) : Reading Act := do
    let _ ← takeWhile (· = ' ')
    let status ← number
    finish
    return .quit silent status

/-- Reads all instructions. -/
def instructions (extended : Bool) : Nat → Nat → Reading (List Instruction)
  | 0, _ => failure
  | n + 1, id => do
    let _ ← takeWhile fun c => c = ' ' || c = '\t' || c = '\n' || c = ';'
    match ← get with
    | [] => return []
    | '#' :: _ =>
      let _ ← takeWhile (· ≠ '\n')
      instructions extended n id
    | _ =>
      let first ← address? extended
      let _ ← takeWhile (· = ' ')
      let second ← match first, ← get with
        | some _, ',' :: cs =>
          set (cs.dropWhile (· = ' '))
          match ← address? extended with
          | some a => pure (some a)
          | none => failure
        | _, _ => pure none
      let marks ← takeWhile fun c => c = ' ' || c = '!'
      let what ← act extended
      if second.isSome && what.isLeaving then failure
      let rest ← instructions extended n (id + 1)
      return ⟨id, first, second, marks.contains '!', what⟩ :: rest

/-! ## Carrying out -/

/-- A line, and whether it has an end. -/
structure Line where
  text : Chars
  ended : Bool

/-- A line with another one after it, which says whether there is an end. -/
def Line.append (a b : Line) : Line := ⟨a.text ++ '\n' :: b.text, b.ended⟩

/-- The state of the editor. -/
structure Desk where
  line : Line
  kept : Line
  input : List Chars
  /-- The last line of the input has an end. -/
  ended : Bool
  number : Nat
  /-- The ranges that are open, with the line on which they end if that is known. -/
  ranges : List (Nat × Option Nat)
  /-- The ranges that began at a line with a number. They do not begin again. -/
  begun : List Nat
  recent : Option Regex
  changed : Bool
  shown : List Chars
  /-- What was shown last has no end. -/
  bare : Bool
  /-- What is shown after the line. -/
  later : List Chars

/-- How the instructions end for a line. -/
inductive Ending where
  | done (prints : Bool)
  /-- The instructions start again with what is left of the line. -/
  | again
  | leave (prints : Bool) (status : Nat)

/-- The line is the last one. -/
def Desk.isLast (d : Desk) : Bool := d.input.isEmpty

/-- Shows a text. -/
def Desk.showText (d : Desk) (cs : Chars) : Desk := { d with shown := cs :: d.shown, bare := false }

/-- Shows a line. -/
def Desk.showLine (d : Desk) (cs : Chars) : Desk :=
  { d with shown := (cs ++ ['\n']) :: d.shown, bare := !d.line.ended }

/-- Shows what comes after a line. -/
def Desk.flush (d : Desk) : Desk :=
  { d.later.reverse.foldl Desk.showText d with later := [] }

/-- Takes the next line. -/
def Desk.advance (d : Desk) : Desk :=
  let input := d.input.drop 1
  { d with
    line := ⟨d.input.headD [], d.ended || !input.isEmpty⟩
    input
    number := d.number + 1 }

/-- Puts another text in the place of the line. -/
def Desk.setText (d : Desk) (cs : Chars) : Desk := { d with line := ⟨cs, d.line.ended⟩ }

/-- An address holds for the line. -/
def Desk.holds (d : Desk) : Address → Bool × Desk
  | .line n => (d.number == n, d)
  | .last => (d.isLast, d)
  | .every first step =>
    let counted := first ≤ d.number && (d.number - first) % step == 0
    (if step = 0 then d.number == first else counted, d)
  | .more _ => (false, d)
  | .matching a fold =>
    let a := a.orElse fun _ => d.recent
    ((a.map fun a => a.isIn fold d.line.text).getD false, { d with recent := a })

/-- An instruction is for the line. -/
def Desk.selects (d : Desk) (i : Instruction) : Bool × Desk :=
  match i.first, i.second with
  | none, _ => (true, d)
  | some a, none => d.holds a
  | some a, some b =>
    let close (d : Desk) : Desk := { d with ranges := d.ranges.filter fun r => r.1 != i.id }
    match d.ranges.lookup i.id with
    | none =>
      let (hit, d) : Bool × Desk := match a with
        | .line n =>
          if n ≤ d.number && !d.begun.contains i.id then
            (true, { d with begun := i.id :: d.begun })
          else (false, d)
        | a => d.holds a
      let opened (last : Option Nat) : Desk := { d with ranges := (i.id, last) :: d.ranges }
      if !hit then (false, d)
      else match b with
        | .line n =>
          let isLate := match a with
            | .line first => n < d.number && first ≠ d.number
            | _ => false
          if n ≤ d.number then (!isLate, d) else (true, opened (some n))
        | .more n => (true, if n = 0 then d else opened (some (d.number + n)))
        | .last => (true, opened none)
        | .matching _ _ =>
          match a with
          | .line 0 =>
            let (found, e) := d.holds b
            (true, if found then e else { e with ranges := (i.id, none) :: e.ranges })
          | _ => (true, opened none)
        | .every _ _ => (true, opened none)
    | some (some last) =>
      if d.number < last then (true, d)
      else if d.number = last then (true, close d)
      else (close d).holds a
    | some none =>
      let (found, d) := d.holds b
      (true, if found then close d else d)

/-- Changes the case of a text: `U` and `L` for all of it, `u` and `l` for its begin. -/
def shifted (all once : Char) (cs : Chars) : Chars :=
  let cs := if all = 'U' then cs.map Char.toUpper else if all = 'L' then cs.map Char.toLower else cs
  match cs with
  | c :: rest => (if once = 'u' then c.toUpper else if once = 'l' then c.toLower else c) :: rest
  | [] => []

/-- The text that takes the place of a match. -/
def newText (f : Regex.Found) : (all once : Char) → List Part → Chars
  | _, _, [] => []
  | all, once, p :: ps =>
    let put (cs : Chars) : Chars :=
      shifted all once cs ++ newText f all (if cs.isEmpty then once else 'E') ps
    match p with
    | .plain cs => put cs
    | .group 0 => put f.text
    | .group n => put ((f.groups.lookup n).getD [])
    | .shift c => if c.isUpper then newText f c 'E' ps else newText f all c ps

/-- Puts a text in the place of matches, from a number of them on. `touches` says that a match ends
here. The result says whether there was one. -/
def replaceFrom (a : Regex) (fold : Bool) (new : List Part) (place : Nat) (every : Bool) :
    Nat → Nat → Bool → Regex.Place → Chars × Bool
  | 0, _, _, p => (p.rest, false)
  | n + 1, count, touches, p =>
    let go := replaceFrom a fold new place every n
    match Regex.search fold a (p.rest.length + 1) [] p with
    | none => (p.rest, false)
    | some f =>
      if touches && f.text.isEmpty && f.before.isEmpty then
        match p.rest with
        | [] => ([], false)
        | c :: _ => let (rest, hit) := go count false p.step; (c :: rest, hit)
      else
        let hit := count + 1 = place || (every && place ≤ count + 1)
        let front := f.before ++ if hit then newText f 'E' 'E' new else f.text
        if hit && !every then (front ++ f.after.rest, true)
        else if f.text.isEmpty then
          match f.after.rest with
          | [] => (front, hit)
          | c :: _ =>
            let (rest, more) := go (count + 1) false f.after.step
            (front ++ c :: rest, hit || more)
        else
          let (rest, more) := go (count + 1) true f.after
          (front ++ rest, hit || more)

/-- The instructions after the block that begins. -/
def afterBlock : Nat → List Instruction → List Instruction
  | _, [] => []
  | depth, i :: is =>
    match i.act, depth with
    | .opens, depth => afterBlock (depth + 1) is
    | .closes, 0 => is
    | .closes, depth + 1 => afterBlock depth is
    | _, depth => afterBlock depth is

/-- The instructions from a label on. -/
def fromLabel (name : Chars) : List Instruction → List Instruction
  | [] => []
  | i :: is =>
    match i.act with
    | .label other => if other = name then is else fromLabel name is
    | _ => fromLabel name is

/-- The first line of a text, and the rest after it. -/
def firstLine (cs : Chars) : Chars × Option Chars :=
  match Text.splitFirst? '\n' cs with
  | some (front, back) => (front, some back)
  | none => (cs, none)

/-- Carries out instructions for the line. Nothing comes out if they do not end. -/
def carryOut (all : List Instruction) (quiet : Bool) :
    Nat → List Instruction → Desk → Option (Ending × Desk)
  | 0, _, _ => none
  | _, [], d => some (.done true, d)
  | n + 1, i :: is, d =>
    let (hit, d) := d.selects i
    let go := carryOut all quiet n
    if hit == i.negated then
      match i.act with
      | .opens => go (afterBlock 0 is) d
      | _ => go is d
    else
      match i.act with
      | .opens => go is d
      | .closes => go is d
      | .label _ => go is d
      | .jump name => go (if name.isEmpty then [] else fromLabel name all) d
      | .jumpIf changed name =>
        let target := if name.isEmpty then [] else fromLabel name all
        go (if d.changed == changed then target else is) { d with changed := false }
      | .substitute a fold new place every prints =>
        match a.orElse fun _ => d.recent with
        | none => go is d
        | some a =>
          let old := d.line.text
          let (text, found) :=
            replaceFrom a fold new place every (2 * old.length + 2) 0 false ⟨none, old, []⟩
          let d := { d with recent := some a }
          if !found then go is d
          else
            let d := { d.setText text with changed := true }
            go is (if prints then d.showLine text else d)
      | .map pairs => go is (d.setText (d.line.text.map fun c => (pairs.lookup c).getD c))
      | .append text => go is { d with later := text :: d.later }
      | .insert text => go is (d.showText text)
      | .change text =>
        let inRange := i.second.isSome && !i.negated && (d.ranges.lookup i.id).isSome
        some (.done false, if inRange then d else d.showText text)
      | .delete => some (.done false, d)
      | .deleteFirst =>
        match firstLine d.line.text with
        | (_, none) => some (.done false, d)
        | (_, some rest) => some (.again, d.setText rest)
      | .print => go is (d.showLine d.line.text)
      | .printFirst => go is (match firstLine d.line.text with
        | (_, none) => d.showLine d.line.text
        | (front, some _) => d.showText (front ++ ['\n']))
      | .number => go is (d.showText (digits d.number ++ ['\n']))
      | .next =>
        if d.isLast then some (.done true, d)
        else
          let d := if quiet then d else d.showLine d.line.text
          go is d.flush.advance
      | .nextToo =>
        if d.isLast then some (.done true, d)
        else
          let e := d.flush.advance
          go is { e with line := d.line.append e.line }
      | .quit silent status => some (.leave (!silent) status, d)
      | .keep => go is { d with kept := d.line }
      | .keepToo => go is { d with kept := d.kept.append d.line }
      | .bring => go is { d with line := d.kept }
      | .bringToo => go is { d with line := d.line.append d.kept }
      | .swap => go is { d with line := d.kept, kept := d.line }

/-- Edits all lines: the result, and the state at the end. Nothing comes out if that does not
end. -/
def edit (all : List Instruction) (quiet : Bool) :
    Nat → (again : Bool) → Desk → Option (Nat × Desk)
  | 0, _, _ => none
  | n + 1, again, d =>
    if !again && d.isLast then some (0, d)
    else
      let d := if again then d else d.advance
      let finish (prints : Bool) (d : Desk) : Desk :=
        (if prints && !quiet then d.showLine d.line.text else d).flush
      match carryOut all quiet roundLimit all { d with changed := false } with
      | none => none
      | some (.done prints, d) => edit all quiet n false (finish prints d)
      | some (.again, d) => edit all quiet n true d.flush
      | some (.leave prints status, d) =>
        some (status, if prints then { finish prints d with bare := false } else d)

/-- Edits a text: the result, and what is shown. -/
def editText (all : List Instruction) (quiet : Bool) (text : Chars) : Option (Nat × Chars) :=
  let (lines, ended) := if text.isEmpty then ([], true) else linesOf text
  let desk : Desk := ⟨⟨[], true⟩, ⟨[], true⟩, lines, ended, 0, [], [], none, false, [], false, []⟩
  (edit all quiet roundLimit false desk).map fun (status, d) =>
    let shown := d.shown.reverse.flatten
    (status, if d.bare then shown.dropLast else shown)

/-! ## The command -/

/-- The short spelling of an argument. -/
def short (arg : Chars) : List Chars :=
  match Text.splitFirst? '=' arg with
  | some (front, back) => if front = "--expression".toList then [['-', 'e'], back] else [arg]
  | none =>
    if arg = "--quiet".toList || arg = "--silent".toList then [['-', 'n']]
    else if arg = "--regexp-extended".toList then [['-', 'E']]
    else if arg = "--in-place".toList then [['-', 'i']]
    else [arg]

/-- The command `sed`. -/
def sed (args : List Chars) : Run Unit := do
  let (os, rest) ← optionsFor "sed" 1 "nErsizbu" "efl" (args.flatMap short)
  let scripts ← (os.filter fun o => o.1 == 'e' || o.1 == 'f').mapM fun (c, value) => do
    if c = 'e' then pure value
    else return ((← input? "sed" value).map fun cs => Text.dropLastIf '\n' cs).getD []
  let (script, files) :=
    if scripts.isEmpty then (rest.headD [], rest.drop 1)
    else (List.intercalate ['\n'] scripts, rest)
  let extended := given os 'E' || given os 'r'
  if scripts.isEmpty && rest.isEmpty then refuse "sed" (charsOf "no script specified") 1
  else match (instructions extended (script.length + 1) 0).run script with
    | none => refuse "sed" (charsOf "-e expression #1: unknown command") 1
    | some (all, _) =>
      let quiet := given os 'n' || (Text.afterPrefix? "#n\n".toList script).isSome
      if given os 'i' then
        eachInput "sed" files fun arg text => do
          match editText all quiet text with
          | some (_, shown) => putFile ((← get).pathOf arg) shown
          | none => throw .hang
      else
        let mut text : Chars := []
        let mut status := 0
        for arg in if files.isEmpty then [['-']] else files do
          match ← input? "sed" arg with
          | none => status := 2
          | some cs =>
            let gap : Chars := if text.isEmpty || text.getLast? = some '\n' then [] else ['\n']
            text := text ++ gap ++ cs
        match editText all quiet text with
        | some (own, shown) =>
          put shown
          result (if own = 0 then status else own)
        | none => throw .hang

end AudioHost.Shell.Tool.Editing
