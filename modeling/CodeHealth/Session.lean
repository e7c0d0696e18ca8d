import CodeHealth.Project
import CodeHealth.Score

/-!
# Sessions

A session keeps the results of a project up to date while its files change. Either the whole project
is analyzed again, or only the functions of the file that changed. Between two steps the disk may
change, time passes, and the registry may come to tell something else of a package: `Step.write`,
`Step.delete` and `Step.observe` say what the steps after them find.
-/

namespace CodeHealth

/-- How to react to a change of a file: by analysing that file alone (`incremental`), or all of
them. -/
inductive RerunMode where
  /-- The whole project is analyzed again. -/
  | full
  /-- Only the functions of the file are measured again. -/
  | incremental
  deriving DecidableEq, Repr

/-- A project, its files, its results so far, and what scores them. `step` takes it from one state
to the next. -/
structure Session where
  /-- What is analyzed, with the registry and the time of the next analysis. -/
  project : Project
  /-- The files as they are now. -/
  disk : Disk
  /-- What is known of the project. -/
  current : Results
  /-- What scores the results. -/
  scorer : Scorer Float

namespace Session

/-- What can happen in a session: it is asked for something, or the world around it changes. `steps`
takes a list of them. -/
inductive Step where
  | run
  | rerun (p : Path) (mode : RerunMode)
  /-- One file is measured, and the results stay as they are. -/
  | single (p : Path)
  | relevant (p : Path)
  | score
  | write (p : Path) (e : Entry)
  | delete (p : Path)
  /-- From here on it is `now`, and releases are as `registry` tells. -/
  | observe (registry : Dependency.Registry) (now : Instant)

/-- What a `Step` tells. -/
inductive Reply where
  | results (r : Results)
  | failed (fault : RunFault)
  | relevant (answer : Bool)
  | score (s : Score Float)
  | done

/-- A session at its start, with no results yet (`Results.empty`). -/
def start (project : Project) (disk : Disk) (weights : Aspects Float) (limits : Limits) : Session :=
  ⟨project, disk, Results.empty project.language, { weights, limits }⟩

/-- Analyzes the whole project of the session `s`. The results stay as they are if that fails. -/
def runFull (s : Session) : Reply × Session :=
  match s.project.run s.disk with
  | .ok r => (.results r, { s with current := r })
  | .error fault => (.failed fault, s)

/-- Measures the file at `p` again and takes its functions over into the results (`replaceFile`). -/
def runIncremental (s : Session) (p : Path) : Reply × Session :=
  let current := s.current.replaceFile p.label (s.project.runSingle s.disk p)
  (.results current, { s with current })

/-- One step of a session `s`: what it tells, and the session after it. -/
def step (s : Session) : Step → Reply × Session
  | .run => s.runFull
  | .rerun _ .full => s.runFull
  | .rerun p .incremental => s.runIncremental p
  | .single p => (.results (s.project.runSingle s.disk p), s)
  | .relevant p => (.relevant (s.project.isRelevant p), s)
  | .score =>
    let (score, scorer) := s.scorer.score s.current
    (.score score, { s with scorer })
  | .write p e => (.done, { s with disk := s.disk.put p e })
  | .delete p => (.done, { s with disk := s.disk.remove p })
  | .observe registry now => (.done, { s with project := { s.project with registry, now } })

/-- The session `s` after some steps, and what each of them tells. -/
def steps (s : Session) : List Step → List Reply × Session
  | [] => ([], s)
  | first :: rest =>
    let (reply, s) := s.step first
    let (replies, s) := s.steps rest
    (reply :: replies, s)

end Session

end CodeHealth
