import AudioHost.Shell.Words

/-!
Aliases: names that stand for texts of a script where a command begins.

They are kept in the order in which they were first given.
-/

namespace AudioHost.Shell

/-- The words of the language of scripts. -/
def languageWords : List String :=
  ["!", "case", "do", "done", "elif", "else", "esac", "fi", "for", "if", "in", "then", "until",
    "while", "\x7b", "\x7d"]

/-- Names and the texts that they stand for. -/
abbrev Aliases := List (String × Chars)

namespace Aliases

/-- Lets a name stand for a text. -/
def give (as : Aliases) (name : String) (text : Chars) : Aliases :=
  if (as.lookup name).isSome then as.map fun a => if a.1 = name then (name, text) else a
  else as ++ [(name, text)]

/-- Lets a name stand for nothing. -/
def drop (as : Aliases) (name : String) : Aliases := as.filter fun a => a.1 != name

/-- The shelf on which a name is kept. Aliases are listed shelf by shelf. -/
def shelf (name : String) : Nat :=
  let codes := name.toList.map Char.toNat
  (16 * codes.headD 0 + codes.foldr (· + ·) 0) % 39

/-- The aliases in the order in which they are listed. -/
def listed (as : Aliases) : Aliases := as.mergeSort fun a b => shelf a.1 ≤ shelf b.1

/-- Puts texts in the place of the aliases in front, of which some may still be used. No alias is
looked for in its own text, and a word of the language is none. After a text with a blank at its
end comes a word that may be another alias. -/
def spellOut (as : Aliases) : Nat → Aliases → Chars → Chars
  | 0, _, cs => cs
  | n + 1, unused, cs =>
    let rest := cs.dropWhile fun c => c = ' ' || c = '\t'
    let name := rest.takeWhile fun c => !endsWord c
    let known := if languageWords.contains (String.ofList name) then [] else unused
    match known.lookup (String.ofList name) with
    | none => cs
    | some text =>
      let rest := rest.drop name.length
      let rest := if text.getLast? = some ' ' then spellOut as n as rest else rest
      spellOut as n (unused.drop (String.ofList name)) (text ++ rest)

/-- Puts texts in the place of the aliases in front of a script. -/
def applied (as : Aliases) (cs : Chars) : Chars :=
  if as.isEmpty then cs else spellOut as (as.length + 1) as cs

end Aliases

end AudioHost.Shell
