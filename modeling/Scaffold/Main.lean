import Scaffold.CommandLine.Run
import Scaffold.Disk.Changes

/-!
# The program

The outer layer: it looks at the real disk, environment and clock and throws the dice, has the run
carried out on what it saw, and then prints and writes what the run reports.
-/

namespace Scaffold.Program

/-- The deepest level of directories that is looked at. -/
def depthLimit : Nat := 64

/-- The location that a path leads to, piece by piece. -/
def placeOf (working : Location) (path : String) : Location :=
  (Path.segments path).foldl (fun place segment =>
    if segment = "" ∨ segment = "." then place
    else if segment = ".." then place.dropLast
    else place ++ [segment]) (if Path.isAbsolute path then [] else working)

/-- The absolute path of a location. -/
def pathOf (place : Location) : String := "/" ++ "/".intercalate place

/-- What is at a location of the real disk, with what lies below it. Links to directories are not
followed. -/
def look : (levels : Nat) → Location → IO (List (Location × Disk.Entry))
  | 0, _ => pure []
  | levels + 1, place => do
    let real ← IO.FS.realPath (pathOf place)
    if ← real.isDir then
      let mut found := [(place, Disk.Entry.directory)]
      for item in ← real.readDir do
        let isLink := (← item.path.symlinkMetadata).type == .symlink
        unless isLink && (← item.path.isDir) do
          let below ← try look levels (place ++ [item.fileName]) catch _ => pure []
          found := found ++ below
      pure found
    else pure [(place, .file (← IO.FS.readBinFile real))]

/-- The directories that a location lies in, as far as the real disk has them. -/
def lookAbove (place : Location) : IO (List (Location × Disk.Entry)) :=
  ((List.range place.length).drop 1).filterMapM fun n => do
    let above := place.take n
    let isThere ← try (do
        let real ← IO.FS.realPath (pathOf above)
        real.isDir)
      catch _ => pure false
    pure (if isThere then some (above, Disk.Entry.directory) else none)

/-- Adds to a disk what the real one has at a path. -/
def add (disk : Disk) (path : String) : IO Disk := do
  let place := placeOf disk.working path
  let above ← lookAbove place
  let found ← try look depthLimit place catch _ => pure []
  pure ((above ++ found).foldl (fun disk (place, entry) => disk.put place entry) disk)

/-- The variables of the environment. -/
def environment : IO (List (String × String)) := do
  let content ← try IO.FS.readBinFile "/proc/self/environ" catch _ => pure .empty
  let text := (String.fromUTF8? content).getD ""
  pure ((Text.split "\x00" text).filterMap fun piece =>
    (Text.cutFirst? ['='] piece.toList).map fun (name, value) =>
      (String.ofList name, String.ofList value))

/-- The seconds since the beginning of 1970. -/
def clock : IO Int :=
  try (do
    let own ← IO.FS.realPath "/proc/self"
    let info ← own.metadata
    pure info.modified.sec)
  catch _ => pure 0

/-- What is left to chance: numbers mixed from a random seed and the way to them. -/
def dice : IO Chance := do
  let seed ← IO.rand 0 (Nat.pow 2 62)
  pure fun path => (hash (seed :: path)).toNat

/-- What is said of a text that is no template. -/
def complaint (name _text : String) : List String :=
  [s!"Failed to parse '{name}'", "the text is no template"]

/-- What a run with the settings alone can see. -/
def settingsOnly : IO Surroundings := do
  let real ← IO.FS.realPath "."
  let working := placeOf [] real.toString
  let found ← environment
  let disk ← add ⟨[], working⟩ Settings.localPath
  let disk := disk.put working .directory
  let around : Surroundings := ⟨disk, found, ← clock, ← dice, complaint⟩
  match Settings.home? around with
  | some home => pure { around with disk := ← add disk (Settings.pathBelow home) }
  | none => pure around

/-- The paths at which a run finds and leaves files. Templates of the user may name any file of the
working directory. -/
def pathsOf (around : Surroundings) (arguments : List String) : List String :=
  match CommandLine.findCommand false arguments with
  | .error _ => []
  | .ok rest =>
    match CommandLine.Order.ofArguments around.environment rest with
    | .error _ => []
    | .ok order =>
      let request := order.request around (Settings.find around).1
      let own := request.templateDirectory.toList ++ request.licenseFile.toList
      request.outputDirectory.toList ++ own ++ (if own.isEmpty then [] else ["."])

/-- Writes what a run has changed to the real disk. -/
def writeBack (before after : Disk) : IO Unit :=
  for (place, entry) in after.entries do
    unless Disk.sameEntry (before.get? place) (some entry) do
      match entry with
      | .directory => IO.FS.createDirAll (pathOf place)
      | .file content => IO.FS.writeBinFile (pathOf place) content

/-- Runs the program on the real surroundings. -/
def perform (arguments : List String) : IO UInt32 := do
  let around ← settingsOnly
  let disk ← (pathsOf around arguments).foldlM add around.disk
  let report := CommandLine.run { around with disk := disk } arguments
  writeBack disk report.disk
  let output ← IO.getStdout
  output.write ⟨report.output.toArray⟩
  output.flush
  for fault in report.settingsFault do
    IO.eprintln fault.message
  for failure in report.failure do
    IO.eprintln (CommandLine.failureLine failure)
  pure report.exitCode.toUInt32

end Scaffold.Program

/-- The program. -/
def main (arguments : List String) : IO UInt32 := Scaffold.Program.perform arguments
