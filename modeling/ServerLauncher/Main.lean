import ServerLauncher.Command.Standard

/-!
# The program

The command line on this computer.  The program looks at the current directory, at a few environment
variables, and at the files that the command line, the configuration and the search path name.  It
has no connection to a network, so that every download fails as if nobody answered, and it changes
no file.  Permissions are not looked at: every file that can be read counts as executable.
-/

namespace ServerLauncher.Main

/-- The environment variables that the program looks at. -/
def variableNames : List String := ["HOME", "PATH", "PROCESSOR_ARCHITECTURE"]

/-- The environment, as far as the program looks at it. -/
def readEnvironment : IO Environment :=
  variableNames.filterMapM fun name => do
    return (← IO.getEnv name).map fun value => (name, value)

/-- The machine with a file of this computer, if it can be read. -/
def withFile (m : Machine) (path : String) : IO Machine := do
  let absolute := m.absolute path
  match ← (IO.FS.readBinFile absolute).toBaseIO with
  | .error _ => return m
  | .ok bytes =>
    let entry := Entry.file bytes (usualMode ||| executeBits)
    return { m with files := m.files.plant (FileTree.locate absolute) entry }

/-- The files that decide about the result of a command line, apart from the configuration file. -/
def filesOfInterest (choices : Command.Choices) (m : Machine) : List String :=
  let a := Acquirer.create choices.installDir none {} none m
  let configured := match Command.loadConfig .standard choices m with
    | (.ok config, _) => (a.overrideOn? config m).toList
    | (.error _, _) => []
  configured ++ a.candidates none m

/-- This computer, as far as the program looks at it. -/
def readMachine (home : String) (words : List String) : IO Machine := do
  let current := (← IO.currentDir).toString
  let m : Machine := {
    current
    files := ({} : FileTree).plant (FileTree.locate current) .directory
    environment := ← readEnvironment }
  match (Command.Interface.standard home).choices words m with
  | .error _ => return m
  | .ok (choices, _) =>
    let m ← choices.configPath.toList.foldlM withFile m
    (filesOfInterest choices m).foldlM withFile m

end ServerLauncher.Main

/-- A command line is carried out; the result is the code with which the program ends. -/
def main (words : List String) : IO UInt32 := do
  let home := (← IO.getEnv "HOME").getD "/"
  let m ← ServerLauncher.Main.readMachine home words
  let (result, _) := ServerLauncher.Command.run .standard (.standard home) words m
  IO.print result.output
  IO.eprint result.errors
  match result.escaped with
  | some fault => IO.eprintln fault.text
  | none => pure ()
  return UInt32.ofNat result.exitCode
