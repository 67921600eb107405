import AudioHost.Shell.Syntax

/-!
Reading the words of a script.

Readers take what they read from the front of a text. A word can hold commands, so its reader is
given one for commands.
-/

namespace AudioHost.Shell

/-- Reads something from the front of a text. -/
abbrev Reading := StateT Chars Option

/-- What pieces of a word stand in. -/
inductive Surrounding where
  | word
  | quotes
  /-- Braces after a dollar sign, whose text is quoted or not. Quotes in a quoted text open and
  close an inner part, in which no brace closes. -/
  | braces (inQuotes inner : Bool)
  /-- Lines after a command. -/
  | body
  /-- A sum, within some brackets. -/
  | sum (depth : Nat)
deriving DecidableEq, Repr

/-- Plain characters count as quoted here. -/
def Surrounding.isQuoted : Surrounding → Bool
  | .word => false
  | .quotes => true
  | .braces inQuotes _ => inQuotes
  | .body => true
  | .sum _ => true

/-- The pieces may end with the text. -/
def Surrounding.mayEnd : Surrounding → Bool
  | .word => true
  | .body => true
  | _ => false

/-- The character ends a word. -/
def endsWord (c : Char) : Bool := " \t\n;&|()<>".toList.contains c

/-! ## Pieces of one kind -/

/-- Puts a piece in front of others. Texts of one kind become one piece. -/
def consPiece (p : Piece) (ps : List Piece) : List Piece :=
  match p, ps with
  | .plain cs, .plain ds :: rest => .plain (cs ++ ds) :: rest
  | .quoted cs, .quoted ds :: rest => .quoted (cs ++ ds) :: rest
  | p, ps => p :: ps

/-- The characters up to the end of a quoted text, and the rest after it. -/
def untilQuote : Chars → Option (Chars × Chars)
  | [] => none
  | '\'' :: cs => some ([], cs)
  | c :: cs => (untilQuote cs).map fun (front, back) => (c :: front, back)

/-- The script up to a back quote, and the rest after it. A backslash lets some characters stand
for themselves. -/
def untilBackQuote (inQuotes : Bool) : Chars → Option (Chars × Chars)
  | [] => none
  | '\x60' :: cs => some ([], cs)
  | '\\' :: '\n' :: cs => untilBackQuote inQuotes cs
  | '\\' :: c :: cs =>
    let bare := ['\\', '\x60', '$'].contains c || (inQuotes && c = '"')
    (untilBackQuote inQuotes cs).map fun (front, back) =>
      (if bare then c :: front else '\\' :: c :: front, back)
  | c :: cs => (untilBackQuote inQuotes cs).map fun (front, back) => (c :: front, back)

/-- Takes a character from the front. -/
def expectChar (c : Char) : Reading Unit := do
  match ← get with
  | d :: cs => if d = c then set cs else failure
  | [] => failure

/-! ## Names -/

/-- The marks that are names of values. -/
def marks : Chars := ['?', '#', '@', '*', '$', '!', '-']

/-- The name in front: letters, digits, or one mark. Only in braces a name is made of more than
one digit. -/
def nameInFront (inBraces : Bool) : Chars → Chars × Chars
  | [] => ([], [])
  | c :: cs =>
    if c.isAlpha || c == '_' then ((c :: cs).takeWhile isNameChar, (c :: cs).dropWhile isNameChar)
    else if c.isDigit then
      if inBraces then ((c :: cs).takeWhile Char.isDigit, (c :: cs).dropWhile Char.isDigit)
      else ([c], cs)
    else if marks.contains c then ([c], cs)
    else ([], c :: cs)

/-- What stands in braces first: a name, and whether its length is meant. -/
def bracedName (cs : Chars) : Bool × Chars × Chars :=
  match cs with
  | '#' :: '\x7d' :: rest => (false, ['#'], '\x7d' :: rest)
  | '#' :: c :: rest =>
    if isNameChar c then (true, nameInFront true (c :: rest))
    else if marks.contains c && rest.head? = some '\x7d' then (true, [c], rest)
    else (false, ['#'], c :: rest)
  | cs => (false, nameInFront true cs)

/-- What a form begins with. -/
inductive Opening where
  | value
  | other (make : List Piece → Form)
  /-- A pattern follows. -/
  | pattern (make : List Piece → Form)
  | unknown

/-- The beginning of a form. -/
def openingOf : Chars → Opening × Chars
  | '\x7d' :: cs => (.value, '\x7d' :: cs)
  | ':' :: '-' :: cs => (.other (.orElse true), cs)
  | '-' :: cs => (.other (.orElse false), cs)
  | ':' :: '=' :: cs => (.other (.orSet true), cs)
  | '=' :: cs => (.other (.orSet false), cs)
  | ':' :: '?' :: cs => (.other (.orFail true), cs)
  | '?' :: cs => (.other (.orFail false), cs)
  | ':' :: '+' :: cs => (.other (.ifSet true), cs)
  | '+' :: cs => (.other (.ifSet false), cs)
  | '#' :: '#' :: cs => (.pattern (.dropFront true), cs)
  | '#' :: cs => (.pattern (.dropFront false), cs)
  | '%' :: '%' :: cs => (.pattern (.dropBack true), cs)
  | '%' :: cs => (.pattern (.dropBack false), cs)
  | cs => (.unknown, cs)

/-! ## Pieces -/

/-- What a backslash and the characters after it stand for. -/
def escaped (around : Surrounding) : Chars → List Piece × Chars
  | '\n' :: cs => ([], cs)
  | [] => ([.quoted ['\\']], [])
  | c :: cs =>
    let bare := !around.isQuoted || ['$', '\x60', '\\'].contains c ||
      (c = '"' && around != .body) ||
      (c = '\x7d' && (around == .braces true false || around == .braces true true))
    (if bare then [.quoted [c]] else [.quoted ['\\', c]], cs)

/-- Quoted text is there even if it is empty, except if it is all parameters and nothing else. -/
def withMark (ps : List Piece) : List Piece :=
  match ps with
  | [.value true "@" .plain] => ps
  | ps => consPiece (.quoted []) ps

/-- Reads pieces up to the end of what they stand in. -/
def pieces (script : Reading (List Command)) : Nat → Surrounding → Reading (List Piece)
  | 0, _ => failure
  | n + 1, around => do
    match ← get with
    | [] => if around.mayEnd then return [] else failure
    | c :: cs =>
      let more (ps : List Piece) (around : Surrounding) : Reading (List Piece) := do
        return ps.foldr consPiece (← pieces script n around)
      let literal : Piece := if around.isQuoted then .quoted [c] else .plain [c]
      set cs
      match around, c with
      | .word, c =>
        if endsWord c then
          set (c :: cs)
          return []
        else special script n around c literal more
      | .quotes, '"' => return []
      | .braces _ false, '\x7d' => return []
      | .braces true inner, '"' => more [] (.braces true !inner)
      | .sum depth, '(' => more [literal] (.sum (depth + 1))
      | .sum (depth + 1), ')' => more [literal] (.sum depth)
      | .sum 0, ')' =>
        match cs with
        | ')' :: cs =>
          set cs
          return []
        | _ => more [literal] around
      | around, c => special script n around c literal more
where
  /-- Goes on after a character that ends nothing. -/
  special (script : Reading (List Command)) (n : Nat) (around : Surrounding) (c : Char)
      (literal : Piece) (more : List Piece → Surrounding → Reading (List Piece)) :
      Reading (List Piece) := do
    let inQuotes := around.isQuoted
    match c with
    | '\\' =>
      let (ps, rest) := escaped around (← get)
      set rest
      more ps around
    | '\'' =>
      if inQuotes then more [literal] around
      else
        let (text, rest) ← liftM (untilQuote (← get))
        set rest
        more [.quoted text] around
    | '"' =>
      if inQuotes then more [literal] around
      else
        let ps ← pieces script n .quotes
        more (withMark ps) around
    | '\x60' =>
      let (text, rest) ← liftM (untilBackQuote inQuotes (← get))
      set text
      let cs ← script
      if !(← get).isEmpty then failure
      set rest
      more [.output inQuotes cs] around
    | '$' =>
      match ← get with
      | '(' :: '(' :: cs =>
        set cs
        let ps ← pieces script n (.sum 0)
        more [.sum inQuotes ps] around
      | '(' :: cs =>
        set cs
        let cs ← script
        expectChar ')'
        more [.output inQuotes cs] around
      | '\x7b' :: cs =>
        let (length, name, rest) := bracedName cs
        let (opening, rest) := openingOf rest
        set rest
        let name := String.ofList name
        let usual := Surrounding.braces inQuotes false
        if name.isEmpty then
          let _ ← pieces script n usual
          more [.value inQuotes name .broken] around
        else if length then
          let _ ← pieces script n usual
          more [.value inQuotes name .length] around
        else match opening with
          | .value =>
            expectChar '\x7d'
            more [.value inQuotes name .plain] around
          | .other make =>
            let ps ← pieces script n usual
            more [.value inQuotes name (make ps)] around
          | .pattern make =>
            let ps ← pieces script n (.braces false false)
            more [.value inQuotes name (make ps)] around
          | .unknown =>
            let _ ← pieces script n usual
            more [.value inQuotes name .broken] around
      | cs =>
        match nameInFront false cs with
        | ([], _) => more [literal] around
        | (name, rest) =>
          set rest
          more [.value inQuotes (String.ofList name) .plain] around
    | _ => more [literal] around

/-- Reads a word. There has to be one. -/
def word (script : Reading (List Command)) : Reading Word := do
  match ← get with
  | [] => failure
  | c :: cs => if endsWord c then failure else pieces script (cs.length + 2) .word

end AudioHost.Shell
