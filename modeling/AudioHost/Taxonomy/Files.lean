import AudioHost.Discovery.Candidates
import AudioHost.Taxonomy.Basic
import AudioHost.Text.Utf8

/-!
Category files, which lie beside plugin libraries.
-/

namespace AudioHost

namespace Taxonomy

/-- The directory for shared data that belongs to a directory for libraries. -/
def sharedSibling? (directory : Path) : Option Path :=
  (Text.splitAround? "/lib/".toList directory.chars).map fun (front, back) =>
    ⟨String.ofList (front ++ "/share/".toList ++ back)⟩

/-- The directories that category files are looked for in. -/
def withSiblings (directories : List Path) : List Path :=
  directories.flatMap fun d => d :: (sharedSibling? d).toList

/-- The text of a file, if it is one. -/
def textOf? (t : FileTree) (p : Path) : Option String :=
  match t.content? p with
  | some (.bytes bs) => (Utf8.decode bs).toOption
  | _ => none

/-- Reads the category files in some directories for a kind, and says how many lines counted. -/
def readFiles (t : Taxonomy) (files : FileTree) (kind : PluginKind) (directories : List Path) :
    Nat × Taxonomy :=
  let paths := Candidates.ofPattern files (withSiblings directories) "*.cat"
  let texts := paths.filterMap (textOf? files)
  texts.foldl (fun (n, t) text => let (m, t) := t.read kind text; (n + m, t)) (0, t)

end Taxonomy

end AudioHost
