import AudioHost.Files.NamePattern
import AudioHost.Files.Tree

/-!
The files that may be plugin libraries.

Directories are gone through in order, and the names in each in theirs. A file that is reached
twice, by a repeated directory or through a link, is listed where it is reached first.
-/

namespace AudioHost

namespace Candidates

/-- The paths of the files in a directory whose names are accepted, as the directory has them. One
that cannot be read has none. -/
def found (fs : LinkedSystem) (accepts : Name → Bool) (directory : Path) : List Path :=
  let names := (fs.names? directory).getD []
  let plain := names.filter fun name => fs.isPlain directory name && accepts name
  (plain.map fun name => directory.join (String.ofList name)).filter fs.isFile

/-- The paths of the files in a directory whose names are accepted, in order. -/
def matching (fs : LinkedSystem) (accepts : Name → Bool) (directory : Path) : List Path :=
  (found fs accepts directory).mergeSort Path.le

/-- The paths that lead to a real file which no earlier path leads to. `seen` holds the files
reached so far. -/
def firstReached (fs : LinkedSystem) (seen : List Path) : List Path → List Path
  | [] => []
  | p :: ps =>
    if seen.any (fs.target p).same then firstReached fs seen ps
    else p :: firstReached fs (fs.target p :: seen) ps

/-- The candidates in some directories. -/
def list (fs : LinkedSystem) (directories : List Path) (accepts : Name → Bool) : List Path :=
  firstReached fs [] (directories.flatMap (matching fs accepts))

/-- The candidates for a pattern that is given as a text. A malformed one lists nothing. -/
def ofPattern (t : FileTree) (directories : List Path) (pattern : String) : List Path :=
  match NamePattern.ofText? pattern with
  | some p => list t.linked directories p.matchesName
  | none => []

end Candidates

end AudioHost
