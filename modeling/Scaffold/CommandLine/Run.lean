import Scaffold.CommandLine.Order
import Scaffold.Generation.Run

/-!
# Running the program

A run of the program is a function of its arguments and of what it finds around it. It reports what
it prints, with which code it ends, and what it leaves on the disk.
-/

namespace Scaffold.CommandLine

/-- The name of the program with its version. -/
def version : String := "qtcli 0.1.0"

/-- What a run of the program does. -/
structure Report where
  exitCode : Nat
  output : List UInt8
  failure : Option Generation.Failure
  settingsFault : Option Settings.Fault
  disk : Disk

/-- The line about a failure. -/
def failureLine (failure : Generation.Failure) : String := "✗ error: " ++ failure.message

/-- The lines about a run that generated nothing. -/
def nothingLines : String :=
  "! No files generated.\n  Every file entry was skipped by its 'when' condition.\n"

/-- The line about a file below the output directory. -/
def createdLine (directory name : String) : String :=
  "✓ Created: " ++ Path.join directory name ++ "\n"

/-- The lines about the files of a run. -/
def summary (outputDirectory : Option String) (names : List String) : String :=
  match names, outputDirectory with
  | [], _ => nothingLines
  | names, some directory => String.join (names.map (createdLine directory))
  | _, none => ""

/-- Ends a run at its arguments. -/
def report (around : Surroundings) : Stop → Report
  | .usage => ⟨2, [], none, none, around.disk⟩
  | .help => ⟨0, [], none, none, around.disk⟩
  | .version => ⟨0, (version ++ "\n").toUTF8.toList, none, none, around.disk⟩

/-- Carries out an order. -/
def carryOut (around : Surroundings) (order : Order) : Report :=
  let (settings, fault?) := Settings.find around
  let request := order.request around settings
  match Generation.run around .unlimited request with
  | (outputs, .error failure) =>
    ⟨1, outputs.console.written, some failure, fault?, outputs.disk⟩
  | (outputs, .ok names) =>
    let console := (outputs.console.write (summary request.outputDirectory names)).1
    ⟨0, console.written, none, fault?, outputs.disk⟩

/-- Runs the program. -/
def run (around : Surroundings) (arguments : List String) : Report :=
  match findCommand false arguments with
  | .error stop => report around stop
  | .ok rest =>
    match Order.ofArguments around.environment rest with
    | .error stop => report around stop
    | .ok order => carryOut around order

end Scaffold.CommandLine
