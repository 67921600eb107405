import AudioHost.Shell.Tool.Arguments
import AudioHost.Shell.Tool.Editing
import AudioHost.Shell.Tool.Finding
import AudioHost.Shell.Tool.Tree

/-!
Programs of the system that scripts use.
-/

namespace AudioHost.Shell.Tool

open Run

/-- The program of a name, if it runs no others. -/
def find? : String → Option (List Chars → Run Unit)
  | "cat" => some cat
  | "head" => some head
  | "tail" => some tail
  | "wc" => some wc
  | "tr" => some tr
  | "cut" => some cut
  | "sort" => some sort
  | "uniq" => some uniq
  | "tee" => some tee
  | "rev" => some rev
  | "grep" => some (Search.grep false false)
  | "egrep" => some (Search.grep true false)
  | "fgrep" => some (Search.grep false true)
  | "sed" => some Editing.sed
  | "expr" => some Search.expr
  | "paste" => some paste
  | "nl" => some numberLines
  | "fold" => some fold
  | "printenv" => some printVariables
  | "tac" => some tac
  | "basename" => some basename
  | "dirname" => some dirname
  | "seq" => some seq
  | "sleep" => some sleep
  | "rm" => some rm
  | "unlink" => some rm
  | "rmdir" => some rmdir
  | "mkdir" => some mkdir
  | "touch" => some touch
  | "cp" => some (copy "cp" false)
  | "mv" => some (copy "mv" true)
  | "ln" => some link
  | "chmod" => some chmod
  | "ls" => some ls
  | "find" => some find
  | "readlink" => some readlink
  | "realpath" => some realpath
  | "mktemp" => some makeTemporary
  | "date" => some date
  | "sync" => some fun _ => result 0
  | "true" => some fun _ => result 0
  | "false" => some fun _ => result 1
  | "uname" => some fun args => do
    put (charsOf (if args.isEmpty || args = [['-', 's']] then "Linux\n" else "\n"))
    result 0
  | "yes" => some fun args => do
    let line := (if args.isEmpty then ['y'] else List.intercalate [' '] args) ++ ['\n']
    whileTrue roundLimit do write 1 line
  | _ => none

end AudioHost.Shell.Tool
