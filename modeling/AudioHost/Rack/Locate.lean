import AudioHost.Files.Tree

/-!
Finding the file of a library.

The text names a file itself, or the file lies under the same name in a directory that is
searched, or at least one with the same stem does. The same name anywhere comes before the same
stem.
-/

namespace AudioHost

namespace Locate

/-- The directories that are searched: the one that the text names, and those of the search path. -/
def directories (fs : FileSystem) (searchPath : List Path) (stored : Path) : List Path :=
  (stored.parent?.filter fs.isDirectory).toList ++ searchPath

/-- The file of a name in the earliest directory that has one. -/
def byName? (fs : FileSystem) (directories : List Path) (name : Name) : Option Path :=
  (directories.map fun d => d.join (String.ofList name)).find? fs.isFile

/-- The files in a directory that have a stem, in order. A directory that cannot be read has
none. -/
def withStem (fs : FileSystem) (stem : Name) (directory : Path) : List Path :=
  let names := (fs.names? directory).getD []
  let paths := names.map fun name => directory.join (String.ofList name)
  (paths.filter fun p => fs.isFile p && p.fileStem? == some stem).mergeSort Path.le

/-- The first file that has a stem in the earliest directory that has one. -/
def byStem? (fs : FileSystem) (directories : List Path) (stem : Name) : Option Path :=
  directories.findSome? fun d => (withStem fs stem d).head?

/-- The file that the text of a library stands for. -/
def file? (fs : FileSystem) (searchPath : List Path) (library : String) : Option Path :=
  let stored : Path := ⟨library⟩
  if fs.isFile stored then some stored
  else match stored.fileName? with
    | none => none
    | some name =>
      let ds := directories fs searchPath stored
      (byName? fs ds name).orElse fun _ => byStem? fs ds (Path.stemOf name)

end Locate

end AudioHost
