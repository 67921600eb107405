import AudioHost.Files.Tree
import AudioHost.Json.Reader
import AudioHost.Settings.Value
import AudioHost.Text.Utf8
import AudioHost.Toml.Reader

/-!
Files that settings are read from.

A file is known by a name, with which its format need not be said: the ending of the file found
says it.
-/

namespace AudioHost

/-- The formats of settings files. -/
inductive SettingsFormat where
  | toml
  | json
deriving DecidableEq, Repr

namespace SettingsFormat

/-- The formats by the endings of their files, in the order in which they are looked for. -/
def endings : List (String × SettingsFormat) := [("toml", .toml), ("json", .json)]

mutual

/-- A setting as a document in JSON gives it: a whole number that is too large for 64 bits with a
sign is a real one, and of entries with one name the last one counts. -/
def settled : Setting → Setting
  | .integer n => if n < 0x8000000000000000 then .integer n else .real (Setting.doubleOf n)
  | .list items => .list (settledItems items)
  | .table entries => .table (settledEntries entries)
  | s => s

def settledItems : List Setting → List Setting
  | [] => []
  | s :: ss => settled s :: settledItems ss

def settledEntries : List (String × Setting) → List (String × Setting)
  | [] => []
  | (name, s) :: es =>
    let later := settledEntries es
    if (later.lookup name).isSome then later else (name, settled s) :: later

end

/-- The depth to which JSON documents may nest. -/
def jsonDepth : Nat := 127

/-- Reads the entries of a document. -/
def read? : SettingsFormat → String → Option (List (String × Setting))
  | .toml, text => Toml.ofText? text
  | .json, text => do
    let j ← Json.ofText? text
    if !j.isSound jsonDepth then none
    else match settled (.ofJson j) with
      | .table entries => some entries
      | _ => none

end SettingsFormat

namespace SettingsFile

/-! ## Finding -/

/-- The ending of the last name of a path. -/
def ending? (p : Path) : Option String :=
  p.fileName?.bind fun name => match Text.splitLast? '.' name with
    | some (front, ending) => if front.isEmpty then none else some (String.ofList ending)
    | none => none

/-- The path with another ending in the place of the one that it has, if any. -/
def withEnding? (p : Path) (ending : String) : Option Path :=
  p.fileStem?.map fun stem => (p.parent?.getD ⟨""⟩).join (String.ofList stem ++ "." ++ ending)

/-- What endings are put on: a name that has an ending keeps it. -/
def base (name : Path) : Path :=
  if (ending? name).isSome then ⟨name.text ++ ".placeholder"⟩ else name

/-- The file of a name and its format. A file of that very name goes before files with endings, and
counts only if its own ending is one of a format. -/
def find? (files : FileTree) (name : Path) : Option (Path × SettingsFormat) :=
  if files.isFile name then
    (ending? name).bind fun ending =>
      (SettingsFormat.endings.lookup ending).map fun format => (name, format)
  else
    SettingsFormat.endings.findSome? fun (ending, format) =>
      ((withEnding? (base name) ending).filter files.isFile).map fun p => (p, format)

/-! ## Reading -/

/-- The bytes without the mark of the byte order in front. -/
def withoutMark : List UInt8 → List UInt8
  | 0xEF :: 0xBB :: 0xBF :: bytes => bytes
  | bytes => bytes

/-- The text of a file. Every byte of a program counts as broken. -/
def textOf : Content → String
  | .bytes bytes => Utf8.decodeLossy (withoutMark bytes)
  | _ => String.ofList [Utf8.replacement]

/-- The entries in the file of a name. A file that is missing has none. Nothing comes out of a
malformed one. -/
def entries? (files : FileTree) (name : Path) : Option (List (String × Setting)) :=
  match find? files name with
  | none => some []
  | some (p, format) => match files.content? p with
    | none => some []
    | some content => format.read? (textOf content)

end SettingsFile

end AudioHost
