import AudioHost.Discovery.Candidates
import AudioHost.Discovery.Probe
import AudioHost.Discovery.Report
import AudioHost.Discovery.SearchPath

/-!
Which of the listed files are libraries worth opening.

Files are offered to checkers. A file that one of them passes is a candidate; one that none passes
is a failure for each that refused it. A checker that cannot run passes everything.
-/

namespace AudioHost

/-- A file to be opened, with the tag of the checker that passed it. -/
structure Candidate where
  path : Path
  tag : String
deriving DecidableEq, Repr

/-- What the checkers made of the files for a kind. -/
structure CandidateScan where
  candidates : List Candidate
  failures : List ScanFailure
  /-- At least one checker could run. -/
  probed : Bool
deriving DecidableEq, Repr

namespace Scanner

variable {σ : Type}

/-- The checkers to use, one for each tag. -/
def distinct (probes : List (Probe σ)) : List (Probe σ) :=
  probes.foldl (fun kept p => if kept.any fun q => q.tag == p.tag then kept else kept ++ [p]) []

/-- The checkers that are asked for a kind. Effects run in this process, so that only the first
checker speaks for them. -/
def consulted (kind : PluginKind) (probes : List (Probe σ)) : List (Probe σ) :=
  match kind with
  | .ladspa => probes.take 1
  | .vamp => probes

/-! ## Asking -/

/-- What a checker said. -/
structure Opinion where
  tag : String
  verdicts : List Verdict
  /-- The checker could run. -/
  ran : Bool
deriving DecidableEq, Repr

/-- What a checker said of files. One that cannot run says nothing against any of them. -/
def opinionOf (tag : String) (files : List Path) :
    Except ProbeError (List Verdict) → Opinion
  | .ok vs => ⟨tag, vs, true⟩
  | .error e => ⟨tag, files.map fun p => ⟨p, .unknown, e.message⟩, false⟩

/-- Asks checkers in order. -/
def ask (symbol : String) (files : List Path) : List (Probe σ) → σ → List Opinion × σ
  | [], s => ([], s)
  | p :: ps, s =>
    let (r, s) := p.check symbol files s
    let (os, s) := ask symbol files ps s
    (opinionOf p.tag files r :: os, s)

/-! ## Judging -/

/-- The verdicts of all opinions, with the tags of the checkers. -/
def tagged (os : List Opinion) : List (String × Verdict) :=
  os.flatMap fun o => o.verdicts.map fun v => (o.tag, v)

/-- The verdicts that pass. -/
def passed (os : List Opinion) : List (String × Verdict) :=
  (tagged os).filter fun e => e.2.status.passes

/-- The verdicts that do not pass. -/
def refused (os : List Opinion) : List (String × Verdict) :=
  (tagged os).filter fun e => !e.2.status.passes

/-- The files that a verdict passes, each once, with the tag of the first one. -/
def accepted : List (String × Verdict) → List Path → List Candidate
  | _, [] => []
  | passes, p :: ps =>
    match passes.find? fun e => e.2.path.same p with
    | some (tag, _) =>
      ⟨p, tag⟩ :: accepted (passes.filter fun e => !e.2.path.same p) ps
    | none => accepted passes ps

/-- A refusal as a failure. -/
def failureOf (kind : PluginKind) (e : String × Verdict) : ScanFailure :=
  ⟨kind, e.2.path, e.1, e.2.status, e.2.message⟩

/-- What opinions make of files. -/
def judge (kind : PluginKind) (files : List Path) (os : List Opinion) : CandidateScan :=
  let candidates := accepted (passed os) files
  let excluded := (refused os).filter fun e => !candidates.any fun c => c.path.same e.2.path
  ⟨candidates, excluded.map (failureOf kind), os.any Opinion.ran⟩

/-- Offers files to the checkers for a kind. -/
def scanFiles (probes : List (Probe σ)) (kind : PluginKind) (files : List Path) (s : σ) :
    CandidateScan × σ :=
  let probes := consulted kind probes
  if files.isEmpty || probes.isEmpty then (⟨[], [], !probes.isEmpty⟩, s)
  else
    let (os, s) := ask kind.symbol files probes s
    (judge kind files os, s)

end Scanner

/-- What a scan needs to know: where to look, and whom to ask. -/
structure Scanner where
  settings : PluginSettings
  environment : Environment
  probes : List (Probe Machine)

namespace Scanner

/-- The directories that are searched for a kind. -/
def directories (s : Scanner) (kind : PluginKind) : List Path :=
  SearchPath.directories s.settings s.environment kind

/-- The files that are listed for a kind. -/
def listed (s : Scanner) (files : FileTree) (kind : PluginKind) : List Path :=
  Candidates.ofPattern files (s.directories kind) (s.settings.globFor kind)

/-- Lists the files for a kind and offers them to the checkers. -/
def scan (s : Scanner) (kind : PluginKind) (m : Machine) : CandidateScan × Machine :=
  scanFiles s.probes kind (s.listed m.files kind) m

end Scanner

end AudioHost
