import CodeHealth.CommandLine

/-!
# The program

Reads the files that a command needs into a disk, runs the command on it, and prints what it tells.
-/

namespace CodeHealth.Program

open CodeHealth.CommandLine

/-- Reads a file, or a directory with everything in it. -/
partial def readEntry (path : String) : IO Entry := do
  let place ← IO.FS.realPath path
  if ← place.isDir then
    let mut entries : List (Name × Entry) := []
    for found in ← place.readDir do
      try
        let below ← readEntry found.path.toString
        entries := (found.fileName.toList, below) :: entries
      catch _ => pure ()
    return .directory entries.reverse
  else
    return .file (← IO.FS.readBinFile place).toList

/-- Puts what a `path` leads to on a `disk`, if it leads to something. -/
def load (disk : Disk) (path : String) : IO Disk := do
  try
    return disk.put (Path.ofString path) (← readEntry path)
  catch _ => return disk

/-- The paths that an invocation `i` names: that of the repository, and that of a settings file. -/
def namedPaths (i : Invocation) : List String := i.path :: i.config.toList

/-- A disk with what an invocation looks at: the paths it names (`namedPaths`), and then the root
that the settings found there name. -/
def diskFor (i : Invocation) : IO Disk := do
  let here := Path.ofString (← IO.currentDir).toString
  let mut disk : Disk := ⟨Entry.emptyDirectory, here.names⟩
  for path in namedPaths i do
    disk ← load disk path
  match settingsOf ⟨disk, Dependency.offlineRegistry, ⟨0, 0⟩⟩ i with
  | .ok settings =>
    if disk.isDirectory settings.root then return disk else load disk settings.root.toString
  | .error _ => return disk

/-- Writes the file with default settings, if a command made one on its `disk`. -/
def store (i : Invocation) (disk : Disk) : IO Unit := do
  match i.command with
  | .init =>
    let file := (Path.ofString i.path).child "drift.toml".toList
    match disk.read? file with
    | some content => IO.FS.writeBinFile file.toString ⟨content.toArray⟩
    | none => pure ()
  | _ => pure ()

/-- Prints how a command ends (`Outcome`), and gives its exit code. -/
def report (outcome : Outcome) : IO UInt32 := do
  IO.print outcome.output
  match outcome.error with
  | some message => IO.eprintln s!"Error: {message}"
  | none => pure ()
  return outcome.code.toUInt32

/-- Runs the program with some `arguments`. Releases are not looked up over a network. -/
def runArguments (arguments : List String) : IO UInt32 := do
  match parse arguments with
  | .error fault =>
    IO.eprintln s!"error: {fault.message}"
    return 2
  | .ok (.invocation i) =>
    let disk ← diskFor i
    let outcome := runInvocation ⟨disk, Dependency.offlineRegistry, ⟨0, 0⟩⟩ i
    if outcome.code == 0 then store i outcome.disk
    report outcome
  | .ok _ => report (run ⟨⟨Entry.emptyDirectory, []⟩, Dependency.offlineRegistry, ⟨0, 0⟩⟩ arguments)

end CodeHealth.Program

/-- The program. -/
def main (arguments : List String) : IO UInt32 := CodeHealth.Program.runArguments arguments
