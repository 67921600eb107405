import AudioHost.Files.Path

/-!
Verdicts on plugin libraries, and the lines by which a checker tells them.

A request is one line that holds a path. An answer is one line of fields between bars: the word
`SUCCESS` or `FAILURE`, the path, and for a failure a code and a message. Paths are written with
four characters encoded, so that every path survives; a message is put on one line.
-/

namespace AudioHost

/-- What is known of whether a library can be loaded. -/
inductive Status where
  | loadable
  | failedToLoadLibrary
  | failedToFindDescriptor
  /-- The check itself failed. -/
  | failedElsewhere
  /-- The check gave no answer. -/
  | unknown
deriving DecidableEq, Repr

namespace Status

/-- Every status with its name. -/
def names : List (String × Status) :=
  [("loadable", .loadable), ("failed_to_load_library", .failedToLoadLibrary),
    ("failed_to_find_descriptor", .failedToFindDescriptor),
    ("failed_elsewhere", .failedElsewhere), ("unknown", .unknown)]

/-- The name of a status. -/
def name : Status → String
  | .loadable => "loadable"
  | .failedToLoadLibrary => "failed_to_load_library"
  | .failedToFindDescriptor => "failed_to_find_descriptor"
  | .failedElsewhere => "failed_elsewhere"
  | .unknown => "unknown"

/-- The status of a name. -/
def ofName? (name : String) : Option Status := names.lookup name

/-- A library with this status is used. One without an answer is, too, so that a failing checker
never hides a working plugin. -/
def passes : Status → Bool
  | .loadable => true
  | .unknown => true
  | _ => false

/-- A status in words. -/
def words : Status → String
  | .loadable => "loadable"
  | .failedToLoadLibrary => "library could not be loaded"
  | .failedToFindDescriptor => "no plugin descriptor found"
  | .failedElsewhere => "checker failed"
  | .unknown => "unknown"

end Status

/-- The verdict on one library. -/
structure Verdict where
  path : Path
  status : Status
  /-- What was found; empty on success. -/
  message : String
deriving DecidableEq, Repr

namespace Verdict

/-- The verdict on a library that loads. -/
def success (path : Path) : Verdict := ⟨path, .loadable, ""⟩

/-- Two verdicts agree: the same path by its parts, the same status and message. -/
def same (a b : Verdict) : Bool :=
  a.path.same b.path && a.status = b.status && a.message = b.message

/-! ## Paths on a line -/

/-- The code of a character that may not stand in a path on a line. -/
def codeOf : Char → Option (List Char)
  | '%' => some "25".toList
  | '|' => some "7C".toList
  | '\n' => some "0A".toList
  | '\r' => some "0D".toList
  | _ => none

/-- Writes one character of a path. -/
def encodeChar (c : Char) : List Char :=
  match codeOf c with
  | some code => '%' :: code
  | none => [c]

/-- Writes a path on a line. -/
def encode (cs : List Char) : List Char := cs.flatMap encodeChar

/-- The character of a code; letters may be small. -/
def decoded : Char → Char → Option Char
  | '2', '5' => some '%'
  | '7', 'C' => some '|'
  | '7', 'c' => some '|'
  | '0', 'A' => some '\n'
  | '0', 'a' => some '\n'
  | '0', 'D' => some '\r'
  | '0', 'd' => some '\r'
  | _, _ => none

/-- Reads a path from a line. What is no code stays as it is. -/
def decode : List Char → List Char
  | '%' :: a :: b :: cs =>
    match decoded a b with
    | some c => c :: decode cs
    | none => '%' :: decode (a :: b :: cs)
  | c :: cs => c :: decode cs
  | [] => []

/-- The line that asks about a path. -/
def requestLine (path : Path) : String := String.ofList (encode path.chars)

/-- The path that a line asks about. -/
def ofRequest (line : String) : Path := ⟨String.ofList (decode line.toList)⟩

/-! ## Answers -/

/-- A message on one line: each line end becomes a space. -/
def oneLine (cs : List Char) : List Char := cs.map fun c => if c = '\r' ∨ c = '\n' then ' ' else c

/-- The code of a failure. -/
def failureCode : Status → Option String
  | .failedToLoadLibrary => some "load"
  | .failedToFindDescriptor => some "descriptor"
  | .failedElsewhere => some "other"
  | _ => none

/-- The line that tells a verdict. A library without an answer is told as a success. -/
def line (v : Verdict) : String :=
  match failureCode v.status with
  | none => s!"SUCCESS|{requestLine v.path}|"
  | some code =>
    s!"FAILURE|{requestLine v.path}|{code}|" ++ String.ofList (oneLine v.message.toList)

/-- The status of a failure code. A code that is not known tells of a failed check. -/
def statusOfCode (code : List Char) : Status :=
  if code = "load".toList then .failedToLoadLibrary
  else if code = "descriptor".toList then .failedToFindDescriptor
  else .failedElsewhere

/-- Removes line ends from the end. -/
def dropLineEnds (cs : List Char) : List Char :=
  (cs.reverse.dropWhile fun c => c = '\r' ∨ c = '\n').reverse

/-- The verdict that a row of fields tells. -/
def ofFields? : List (List Char) → Option Verdict
  | word :: path :: more =>
    if path.isEmpty then none
    else
      let path : Path := ⟨String.ofList (decode path)⟩
      if word = "SUCCESS".toList then some (success path)
      else if word = "FAILURE".toList then
        match more with
        | [] => none
        | [code] => some ⟨path, statusOfCode code, ""⟩
        | code :: message :: _ => some ⟨path, statusOfCode code, String.ofList message⟩
      else none
  | _ => none

/-- Reads an answer; nothing if the line is none. -/
def ofLine? (line : String) : Option Verdict :=
  ofFields? (Text.splitAtMost '|' 4 (dropLineEnds line.toList))

end Verdict

end AudioHost
