import AudioHost.Text.Utf8

/-!
What a checker process writes, as its supervisor sees it: lines, and how they end. There are
finitely many of them, but the end of the lines is not the end of the process. That may come later,
or never.
-/

namespace AudioHost

/-- How the output of a process ends. -/
inductive Ending where
  /-- Nothing more can come. -/
  | exited
  /-- No line came in time. -/
  | stalled
  /-- What came is no text. -/
  | unreadable (reason : String)
deriving DecidableEq, Repr

/-- What a process writes. -/
structure Transcript where
  lines : List String
  ending : Ending
deriving DecidableEq, Repr

namespace Transcript

/-- Cuts bytes after each line feed. -/
def cutLines : List UInt8 → List UInt8 → List (List UInt8)
  | [], [] => []
  | done, [] => [done.reverse]
  | done, b :: bs =>
    if b = 10 then (b :: done).reverse :: cutLines [] bs else cutLines (b :: done) bs

/-- A line without its end: a line feed, with a carriage return before it or not. The end is taken
off before the bytes are read as text. -/
def withoutEnd (bytes : List UInt8) : List UInt8 :=
  if bytes.getLast? ≠ some 10 then bytes
  else
    let front := bytes.dropLast
    if front.getLast? = some 13 then front.dropLast else front

/-- Puts a line in front. -/
def push (line : String) (t : Transcript) : Transcript := { t with lines := line :: t.lines }

/-- The lines of cut bytes, up to one that is no text. -/
def ofCut (ending : Ending) : List (List UInt8) → Transcript
  | [] => ⟨[], ending⟩
  | bytes :: rest => match Utf8.decode (withoutEnd bytes) with
    | .ok s => (ofCut ending rest).push s
    | .error fault => ⟨[], .unreadable fault.message⟩

/-- The transcript of bytes that end in some way. -/
def ofBytes (bytes : List UInt8) (ending : Ending) : Transcript := ofCut ending (cutLines [] bytes)

/-- The bytes of lines, each with a line feed at its end. -/
def bytesOf (lines : List String) : List UInt8 := lines.flatMap fun line => Utf8.encode line ++ [10]

end Transcript

end AudioHost
