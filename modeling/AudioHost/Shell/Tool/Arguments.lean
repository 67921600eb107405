import AudioHost.Shell.Tool.Names

/-!
Commands whose arguments come from a text.
-/

namespace AudioHost.Shell.Tool

open Run

/-- The words of a text, in which quotes and backslashes keep gaps. -/
def wordsOf : Option Char → Option Chars → Chars → List Chars
  | _, word, [] => word.toList
  | some quote, word, c :: cs =>
    if c = quote then wordsOf none word cs else wordsOf quote (word.getD [] ++ [c]) cs
  | none, word, '\\' :: c :: cs => wordsOf none (word.getD [] ++ [c]) cs
  | none, word, c :: cs =>
    if c = '\'' || c = '"' then wordsOf c (word.getD []) cs
    else if c = ' ' || c = '\t' || c = '\n' then word.toList ++ wordsOf none none cs
    else wordsOf none (word.getD [] ++ [c]) cs

/-- Groups of so many members each. -/
def inGroups {α : Type} (n : Nat) : Nat → List α → List (List α)
  | 0, _ => []
  | _, [] => []
  | fuel + 1, xs => xs.take (max n 1) :: inGroups n fuel (xs.drop (max n 1))

/-- The text with another one in every place of a mark. -/
def fillIn (mark text : Chars) : Nat → Chars → Chars
  | 0, cs => cs
  | n + 1, cs =>
    match Text.splitAround? mark cs with
    | some (front, back) => front ++ text ++ fillIn mark text n back
    | none => cs

/-- Splits the arguments of `xargs`: the options in front, and the command. -/
def commandAfter : List Chars → List (Char × Chars) × List Chars
  | [] => ([], [])
  | ('-' :: c :: value) :: args =>
    if ['n', 'I', 'd', 'L', 'P', 's', 'E'].contains c then
      match value, args with
      | [], value :: args => let (os, rest) := commandAfter args; ((c, value) :: os, rest)
      | value, args => let (os, rest) := commandAfter args; ((c, value) :: os, rest)
    else let (os, rest) := commandAfter args; ((c :: value).map (fun c => (c, [])) ++ os, rest)
  | args => ([], args)

/-- The commands that a text stands for, each in its words. -/
def commandsOf (os : List (Char × Chars)) (command text : List Char) (words : List Chars) :
    List (List Chars) :=
  let lines := (linesOf text).1
  let delimiter : Option Char :=
    if given os '0' then some (Char.ofNat 0)
    else (os.lookup 'd').map fun d => if d = ['\\', 'n'] then '\n' else d.headD '\n'
  match os.lookup 'I', delimiter with
  | some mark, delimiter =>
    let items := match delimiter with
      | some d => Text.splitAll d (Text.dropLastIf d text)
      | none => (lines.map (List.dropWhile Pattern.isGap)).filter fun line => !line.isEmpty
    items.map fun item =>
      (command :: words).map fun word => fillIn mark item word.length word
  | none, delimiter =>
    let items := match delimiter with
      | some d => if text.isEmpty then [] else Text.splitAll d (Text.dropLastIf d text)
      | none => wordsOf none none text
    let most := ((os.lookup 'n').orElse fun _ => os.lookup 'L').bind Number.ofDigits?
    if items.isEmpty then if given os 'r' then [] else [command :: words]
    else (inGroups (most.getD items.length) items.length items).map fun group =>
      command :: words ++ group

end AudioHost.Shell.Tool
