import AudioHost.Files.Path
import AudioHost.Native.Specimen

/-!
A tree of files below a working directory.

Entries are kept by their names from the working directory down. Paths are followed step by step:
links are replaced by their targets, a bounded number of times, and every step but the last must
lead to a directory. Nothing is known of what lies outside the working directory, except that it
is a directory.
-/

namespace AudioHost

/-- A file name. -/
abbrev Name := List Char

/-- What a file holds. -/
inductive Content where
  | bytes (bs : List UInt8)
  /-- A plugin library. -/
  | library (s : Specimen)
  /-- The program that checks plugin libraries. -/
  | checker
deriving DecidableEq, Repr

/-- What a name in a directory stands for. -/
inductive Entry where
  | file (content : Content) (executable : Bool)
  | directory
  | link (target : Path)
deriving DecidableEq, Repr

/-- The files below a working directory. -/
structure FileTree where
  entries : List (List Name × Entry)
deriving DecidableEq, Repr

/-- Why a path leads nowhere. -/
inductive LookupError where
  | notFound
  | notDirectory
  | tooManyLinks
  | permissionDenied
deriving DecidableEq, Repr

/-- The system's words for an error. -/
def LookupError.message : LookupError → String
  | .notFound => "No such file or directory (os error 2)"
  | .notDirectory => "Not a directory (os error 20)"
  | .tooManyLinks => "Too many levels of symbolic links (os error 40)"
  | .permissionDenied => "Permission denied (os error 13)"

namespace FileTree

/-- The tree of an empty working directory. -/
def empty : FileTree := ⟨[]⟩

/-! ## Following paths -/

/-- A place in or outside the tree. -/
inductive Place where
  | outside
  | inside (names : List Name)
deriving DecidableEq, Repr

/-- The working directory. -/
def Place.top : Place := .inside []

/-- One step along a path. -/
inductive Step where
  | stay
  | up
  | down (name : Name)
deriving DecidableEq, Repr

/-- The step for a piece between slashes. -/
def stepOf (piece : List Char) : Option Step :=
  if piece = [] then none
  else if piece = ['.'] then some .stay
  else if piece = ['.', '.'] then some .up
  else some (.down piece)

/-- The steps of a path. A slash at the end asks for a directory. -/
def steps (p : Path) : List Step :=
  let tail := if p.chars.getLast? = some '/' then [.stay] else []
  (Text.splitAll '/' p.chars).filterMap stepOf ++ tail

/-- The entry at a place. The working directory and what is outside are directories. -/
def entryAt (t : FileTree) : Place → Option Entry
  | .outside => some .directory
  | .inside [] => some .directory
  | .inside names => t.entries.lookup names

/-- The directory above a place. -/
def above : Place → Place
  | .outside => .outside
  | .inside [] => .outside
  | .inside names => .inside names.dropLast

/-- The place of a name in a directory. -/
def below : Place → Name → Option Place
  | .outside, _ => none
  | .inside names, name => some (.inside (names ++ [name]))

/-- Where the steps of a path begin. -/
def origin (p : Path) (here : Place) : Place := if p.isAbsolute then .outside else here

/-- Follows steps from a place. At a link the rest is handed to `onLink`. -/
def followSteps (t : FileTree) (onLink : Place → List Step → Except LookupError Place) :
    Place → List Step → Except LookupError Place
  | here, [] => .ok here
  | here, step :: rest =>
    if t.entryAt here ≠ some .directory then .error .notDirectory
    else match step with
      | .stay => t.followSteps onLink here rest
      | .up => t.followSteps onLink (above here) rest
      | .down name =>
        match below here name with
        | none => .error .notFound
        | some there =>
          match t.entryAt there with
          | none => .error .notFound
          | some (.link target) => onLink (origin target here) (steps target ++ rest)
          | some _ => t.followSteps onLink there rest

/-- Follows steps through at most `links` links. -/
def follow (t : FileTree) : Nat → Place → List Step → Except LookupError Place
  | 0 => t.followSteps fun _ _ => .error .tooManyLinks
  | links + 1 => t.followSteps (t.follow links)

/-- The most links that are followed. -/
def linkLimit : Nat := 40

/-- The place that a path leads to, links followed. -/
def find (t : FileTree) (p : Path) : Except LookupError Place :=
  if p.text.isEmpty then .error .notFound
  else t.follow linkLimit (origin p .top) (steps p)

/-! ## Looking -/

/-- The entry that a path leads to, which is no link. -/
def lookUp? (t : FileTree) (p : Path) : Option Entry :=
  match t.find p with
  | .ok place => t.entryAt place
  | .error _ => none

/-- The path leads to a file. -/
def isFile (t : FileTree) (p : Path) : Bool :=
  match t.lookUp? p with
  | some (.file _ _) => true
  | _ => false

/-- The path leads to a directory. -/
def isDirectory (t : FileTree) (p : Path) : Bool := t.lookUp? p == some .directory

/-- The path leads somewhere. -/
def reaches (t : FileTree) (p : Path) : Bool := (t.lookUp? p).isSome

/-- The place of the real file that a path leads to. -/
def realPlace? (t : FileTree) (p : Path) : Option Place := (t.find p).toOption

/-- The content of the file that a path leads to. -/
def content? (t : FileTree) (p : Path) : Option Content :=
  match t.lookUp? p with
  | some (.file content _) => some content
  | _ => none

/-- The name of an entry that lies directly in a directory. -/
def nameWithin (directory : List Name) (names : List Name) : Option Name :=
  if names.dropLast = directory then names.getLast? else none

/-- The names directly in the directory that a path leads to. -/
def names? (t : FileTree) (p : Path) : Option (List Name) :=
  match t.find p with
  | .ok place =>
    if t.entryAt place ≠ some .directory then none
    else match place with
      | .outside => some []
      | .inside names => some ((t.entries.filterMap fun e => nameWithin names e.1).eraseDups)
  | .error _ => none

/-- The entry of a name in the directory that a path leads to, a link not followed. -/
def entryIn? (t : FileTree) (directory : Path) (name : Name) : Option Entry :=
  match t.find directory with
  | .ok place => (below place name).bind t.entryAt
  | .error _ => none

/-! ## Changing -/

/-- Sets the entry at some names. -/
def put (t : FileTree) (names : List Name) (e : Entry) : FileTree :=
  if (t.entries.lookup names).isSome then
    ⟨t.entries.map fun old => if old.1 = names then (names, e) else old⟩
  else ⟨t.entries ++ [(names, e)]⟩

/-- Makes the directories on the way to some names, where nothing is. -/
def makeWay (t : FileTree) (names : List Name) : FileTree :=
  (List.range names.length).foldl
    (fun t n =>
      let front := names.take n
      if (t.entryAt (.inside front)).isSome then t else t.put front .directory)
    t

/-- The names that a new entry at a path gets: its directory is followed as far as it exists. -/
def newNames? (t : FileTree) (p : Path) : Option (List Name) :=
  match p.fileName? with
  | none => none
  | some name =>
    match t.find (p.parent?.getD ⟨""⟩) with
    | .ok (.inside names) => some (names ++ [name])
    | .ok .outside => none
    | .error _ =>
      if p.isAbsolute then none
      else some (p.parts.filterMap fun part => match part with
        | .name cs => some cs
        | _ => none)

/-- Puts an entry at a path, with the directories on the way. -/
def place (t : FileTree) (p : Path) (e : Entry) : FileTree :=
  match t.newNames? p with
  | some names => (t.makeWay names).put names e
  | none => t

/-- Makes a directory, with the directories on the way. -/
def makeDirectory (t : FileTree) (p : Path) : FileTree :=
  if t.reaches p then t else t.place p .directory

/-- Writes a file. The file that a path leads to is replaced; else a new one is made. -/
def writeFile (t : FileTree) (p : Path) (content : Content) (executable : Bool) : FileTree :=
  match t.find p with
  | .ok (.inside names) =>
    match t.entryAt (.inside names) with
    | some (.file _ old) => t.put names (.file content (executable || old))
    | _ => t
  | _ => t.place p (.file content executable)

/-- Removes the file or link that a path names. -/
def remove (t : FileTree) (p : Path) : FileTree :=
  match t.newNames? p with
  | some names =>
    if t.entryAt (.inside names) = some .directory then t
    else ⟨t.entries.filter fun e => e.1 ≠ names⟩
  | none => t

end FileTree

/-! ## File systems -/

/-- A file system, as far as it is asked for files and directories. -/
structure FileSystem where
  /-- A path leads to a file. -/
  isFile : Path → Bool
  /-- A path leads to a directory. -/
  isDirectory : Path → Bool
  /-- The names directly in the directory that a path leads to; none if it cannot be read. -/
  names? : Path → Option (List Name)

/-- What a tree answers. -/
def FileTree.system (t : FileTree) : FileSystem where
  isFile := t.isFile
  isDirectory := t.isDirectory
  names? := t.names?

/-- A file system that also tells links from what they lead to. -/
structure LinkedSystem extends FileSystem where
  /-- The name in a directory is no directory itself. A link to one is still none. -/
  isPlain : Path → Name → Bool
  /-- The path of what a path leads to, every link followed; none if it leads nowhere. -/
  real? : Path → Option Path

namespace LinkedSystem

/-- What a path leads to, as a path; the path itself if it leads nowhere. -/
def target (fs : LinkedSystem) (p : Path) : Path := (fs.real? p).getD p

/-- Two paths lead to the same real file. -/
def sameFile (fs : LinkedSystem) (p q : Path) : Bool := (fs.target p).same (fs.target q)

end LinkedSystem

namespace FileTree

/-- The path to a place, without links on it. -/
def Place.path : Place → Path
  | .outside => ⟨"/"⟩
  | .inside names => ⟨String.ofList (['/'].intercalate names)⟩

/-- What a tree answers of links. -/
def linked (t : FileTree) : LinkedSystem where
  toFileSystem := t.system
  isPlain directory name := t.entryIn? directory name != some .directory
  real? p := (t.find p).toOption.map Place.path

end FileTree

end AudioHost
