import AudioHost.Command.Run

/-!
The program for the command line.

Its first argument may ask for the host itself or for the program that checks libraries; otherwise
the arguments are those of the tool. The files are those below the working directory.
-/

open AudioHost

/-- The deepest directories that are read. -/
def treeDepth : Nat := 12

/-- A file begins as a script does. -/
def beginsAsScript (bytes : List UInt8) : Bool := bytes.take 2 == Utf8.encode "#!"

/-- Adds what lies in a directory to a tree. -/
def readTree (path : String) (depth : Nat) (t : FileTree) : IO FileTree := do
  match depth with
  | 0 => return t
  | depth + 1 =>
    let mut t := t
    let here ← IO.currentDir
    for entry in ← (here / path).readDir do
      let name := (Path.join ⟨path⟩ entry.fileName).text
      if ← entry.path.isDir then
        t ← readTree name depth (t.makeDirectory ⟨name⟩)
      else
        let bytes := (← IO.FS.readBinFile entry.path).toList
        t := t.place ⟨name⟩ (.file (.bytes bytes) (beginsAsScript bytes))
    return t

/-- The variables of the environment. -/
def readEnvironment : IO Environment := do
  let bytes ← IO.FS.readBinFile "/proc/self/environ"
  let texts := Text.splitAll (Char.ofNat 0) (Utf8.decodeLossy bytes.toList).toList
  return texts.filterMap fun cs =>
    (Text.splitFirst? '=' cs).map fun (name, value) => (String.ofList name, String.ofList value)

/-- Writes what a program writes, and gives its code. -/
def finish (o : Command.Outcome) : IO UInt32 := do
  IO.print o.out
  IO.eprint o.err
  return UInt32.ofNat o.code

/-- Runs the program that the arguments ask for. -/
def main (args : List String) : IO UInt32 := do
  let files ← readTree "" treeDepth .empty
  let w : Command.Surroundings := ⟨files, ← readEnvironment, false⟩
  match args with
  | "host" :: _ => finish (Command.runHost w)
  | "checker" :: rest => finish (Command.runChecker w rest (← (← IO.getStdin).readToEnd))
  | args => finish (Command.runTool w args)
