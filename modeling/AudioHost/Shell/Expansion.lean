import AudioHost.Shell.Process
import AudioHost.Shell.Sum

/-!
Expanding words: values of variables, sums, and what commands write.
-/

namespace AudioHost.Shell

/-! ## Sums -/

/-- Fails because a text is no sum. -/
def Run.failSum {α : Type} (text : Chars) (fault : SumFault) : Run α :=
  failWith 2 (charsOf s!"arithmetic expression: {fault.message}: \"" ++ text ++ ['"'])

/-- The number that a variable holds. -/
def Run.numberIn (name : String) : Run Int := do
  match (← get).named? name with
  | none => return 0
  | some cs =>
    match Number.ofText? true cs with
    | some n => return n
    | none => failWith 2 (charsOf "Illegal number: " ++ cs)

/-- The value of a sum that was read from a text. -/
def Sum.value (text : Chars) : Sum → Run Int
  | .number n => return n
  | .variable x => Run.numberIn x
  | .negative a => return Number.wrap (-(← a.value text))
  | .isZero a => return if (← a.value text) = 0 then 1 else 0
  | .complement a => return -(← a.value text) - 1
  | .binary o a b => do
    let x ← a.value text
    let y ← b.value text
    match o.valueOf? x y with
    | some n => return n
    | none => Run.failSum text .zeroDivision
  | .both a b => do
    if (← a.value text) = 0 then return 0
    return if (← b.value text) = 0 then 0 else 1
  | .either a b => do
    if (← a.value text) ≠ 0 then return 1
    return if (← b.value text) = 0 then 0 else 1
  | .choice a b c => do
    if (← a.value text) = 0 then c.value text else b.value text
  | .assign x o a => do
    let y ← a.value text
    let n ← match o with
      | none => pure y
      | some o => do
        match o.valueOf? (← Run.numberIn x) y with
        | some n => pure n
        | none => Run.failSum text .zeroDivision
    Run.setVariable x (Number.text n)
    return n

/-- The value of a text that is a sum. -/
def Run.sumOf (text : Chars) : Run Int :=
  match Sum.ofText text with
  | .ok sum => sum.value text
  | .error fault => failSum text fault

/-! ## Values -/

/-- The parameters, as a word shows them. -/
def parameterItems (s : State) (mode : Mode) (inQuotes : Bool) (name : String) : List Item :=
  let joined (joint : Chars) : Chars := List.intercalate joint s.parameters
  if inQuotes then
    if name = "@" && mode.isCut then
      let shown := s.parameters.map fun cs => .present :: Item.quoted cs
      if shown.isEmpty then [] else .opening true :: (shown.intersperse [.border]).flatten
    else Item.quoted (joined s.joint)
  else if mode.isCut then
    .opening false ::
      ((s.parameters.map (Item.divided s.separators)).intersperse [.gap]).flatten
  else Item.plain (joined s.joint)

/-- A text, as a word shows it. -/
def textItems (s : State) (mode : Mode) (inQuotes : Bool) (cs : Chars) : List Item :=
  if inQuotes then Item.quoted cs
  else if mode.isCut then .opening false :: Item.divided s.separators cs
  else Item.plain cs

/-- A value, as a word shows it. -/
def valueItems (s : State) (mode : Mode) (inQuotes : Bool) (name : String) (value : Chars) :
    List Item :=
  if name = "@" || name = "*" then parameterItems s mode inQuotes name
  else textItems s mode inQuotes value

/-! ## The home directory -/

/-- The home directory of a user, who need not be named. -/
def homeOf? (home : Option Chars) (user : Chars) : Option Chars :=
  if user.isEmpty then home else if user = "root".toList then some "/root".toList else none

/-- A tilde at the beginning of a text, with or without the name of a user, stands for a home
directory. -/
def tilde (home : Option Chars) (last : Bool) (cs : Chars) : List Piece :=
  match cs with
  | '~' :: rest =>
    let user := rest.takeWhile (· ≠ '/')
    let back := rest.drop user.length
    match homeOf? home user with
    | some home => if back.isEmpty && !last then [.plain cs] else [.quoted home, .plain back]
    | none => [.plain cs]
  | cs => [.plain cs]

/-- Puts home directories in place of tildes, which may also stand after colons. -/
def withHome (home : Option Chars) (colons : Bool) (atStart : Bool) : List Piece → List Piece
  | .plain cs :: ps =>
    let parts := if colons then Text.splitAll ':' cs else [cs]
    let count := parts.length
    let shown := parts.mapIdx fun i part =>
      if i = 0 && !atStart then [.plain part]
      else tilde home (i + 1 < count || ps.isEmpty) part
    (shown.intersperse [.plain [':']]).flatten ++
      (if colons then withHome home colons false ps else ps)
  | p :: ps => p :: (if colons then withHome home colons false ps else ps)
  | [] => []

/-! ## Pieces -/

/-- A parameter is missing. -/
def Run.failMissing {α : Type} (name : String) (message : String) : Run α :=
  failWith 2 (charsOf s!"{name}: {message}")

/-- Expands the form of a value. -/
def expandForm (r : Runner) (mode : Mode) (inQuotes : Bool) (name : String) (form : Form) :
    Run (List Item) := do
  let s ← get
  let value := s.value? name
  let missing (notEmpty : Bool) : Bool := match value with
    | some cs => notEmpty && cs.isEmpty
    | none => true
  let inner : Mode := if mode.isCut then .value else mode
  let strict : Run Unit := do
    if value.isNone && s.options.contains 'u' && name ≠ "@" && name ≠ "*" then
      Run.failMissing name "parameter not set"
  let shown : List Item := valueItems s mode inQuotes name (value.getD [])
  match form with
  | .broken => Run.fail "Bad substitution"
  | .plain =>
    strict
    return shown
  | .length =>
    strict
    return textItems s mode inQuotes (digits (value.getD []).length)
  | .orElse notEmpty w => if missing notEmpty then r.expand inner w else return shown
  | .ifSet notEmpty w => if missing notEmpty then return [] else r.expand inner w
  | .orSet notEmpty w =>
    if missing notEmpty then
      if !isName name.toList then Run.failMissing name "bad variable name"
      let text := Item.chars (← r.expand .text w)
      Run.setVariable name text
      return textItems (← get) mode inQuotes text
    else return shown
  | .orFail notEmpty w =>
    if missing notEmpty then
      if w.isEmpty then
        Run.failMissing name ("parameter not set" ++ if notEmpty then " or null" else "")
      else
        let text := Item.chars (← r.expand .text w)
        Run.failWith 2 (charsOf name ++ [':', ' '] ++ text)
    else return shown
  | .dropFront most w =>
    strict
    let pattern := Item.glyphs (← r.expand .text w)
    return textItems s mode inQuotes (Pattern.dropFront most pattern (value.getD []))
  | .dropBack most w =>
    strict
    let pattern := Item.glyphs (← r.expand .text w)
    return textItems s mode inQuotes (Pattern.dropBack most pattern (value.getD []))

/-- Expands a piece of a word. -/
def expandPiece (r : Runner) (mode : Mode) : Piece → Run (List Item)
  | .plain cs => do
    let s ← get
    return if mode = .value then .opening false :: Item.divided s.separators cs
      else Item.plain cs
  | .quoted cs => return .present :: Item.quoted cs
  | .value inQuotes name form => expandForm r mode inQuotes name form
  | .sum inQuotes text => do
    let n ← Run.sumOf (Item.chars (← r.expand .text text))
    return textItems (← get) mode inQuotes (Number.text n)
  | .output inQuotes script => do
    let text ← Run.capture r (r.command false (.sequence script))
    return textItems (← get) mode inQuotes text

/-- Expands pieces of a word. -/
def expandPieces (r : Runner) (mode : Mode) : List Piece → Run (List Item)
  | [] => return []
  | p :: ps => do
    let front ← expandPiece r mode p
    return front ++ (← expandPieces r mode ps)

/-- Expands a word. -/
def expandWord (r : Runner) (mode : Mode) (w : Word) : Run (List Item) := do
  expandPieces r mode (withHome ((← get).named? "HOME") (mode = .assignment) true w)

namespace Run

/-- The text that a word stands for. -/
def textOfWord (r : Runner) (w : Word) : Run Chars := do return Item.chars (← r.expand .text w)

/-- The text that a word stands for when it is given to a variable. -/
def valueOfWord (r : Runner) (w : Word) : Run Chars := do
  return Item.chars (← r.expand .assignment w)

/-- The texts that a word stands for. -/
def textsOfWord (r : Runner) (w : Word) : Run (List Chars) := do
  let items ← r.expand .fields w
  let s ← get
  return (fieldsOf items).flatMap (textsOf s)

/-- The texts that words stand for. -/
def textsOfWords (r : Runner) : List Word → Run (List Chars)
  | [] => return []
  | w :: ws => do
    let front ← textsOfWord r w
    return front ++ (← textsOfWords r ws)

/-- A pattern is found in a text. -/
def anyMatches (r : Runner) (cs : Chars) : List Word → Run Bool
  | [] => return false
  | w :: ws => do
    let items ← r.expand .text w
    if Pattern.matchesText (Item.glyphs items) cs then return true else anyMatches r cs ws

end Run

end AudioHost.Shell
