import AudioHost.Discovery.Probe
import AudioHost.Discovery.Transcript

/-!
The program that checks libraries.

It reads one path on each line and answers it before it reads the next, so that a library which
takes the program down is the first one without an answer. It ends with its requests. What it is
asked and what it answers are bytes on the way, and whoever reads them cuts them into lines.
-/

namespace AudioHost.Checker

variable {σ : Type}

/-- What the program writes on requests. A path may end it before it answers. -/
def transcript (l : Loader σ) (symbol : String) (fate : Path → Option Ending) :
    List String → σ → Transcript
  | [], _ => ⟨[], .exited⟩
  | request :: requests, s =>
    if request.isEmpty then transcript l symbol fate requests s
    else
      let p := Verdict.ofRequest request
      match fate p with
      | some ending => ⟨[], ending⟩
      | none =>
        let (v, s) := l.check symbol p s
        (transcript l symbol fate requests s).push v.line

/-- What is seen of the program by whoever gives it requests. -/
def exchange (l : Loader σ) (symbol : String) (fate : Path → Option Ending)
    (requests : List String) (s : σ) : Transcript :=
  let asked := Transcript.ofBytes (Transcript.bytesOf requests) .exited
  let written := transcript l symbol fate asked.lines s
  .ofBytes (Transcript.bytesOf written.lines) written.ending

/-- The machine of the program: the files, and nothing that was put in the place of libraries. -/
def machine (files : FileTree) : Machine := .start files (.start [] .file)

/-- What the program writes when no library takes it down. -/
def onFiles (files : FileTree) (symbol : String) (requests : List String) : Transcript :=
  transcript Machine.loader symbol (fun _ => none) requests (machine files)

/-- What is seen of the program when no library takes it down. -/
def seenOnFiles (files : FileTree) (symbol : String) (requests : List String) : Transcript :=
  exchange Machine.loader symbol (fun _ => none) requests (machine files)

end AudioHost.Checker
