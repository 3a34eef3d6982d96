import StackLanguage.CommandLine

/-! The program: it hands the arguments, the files they may name, the environment and the
input to the command line, and writes what comes back. The input is read to its end before
a program runs. -/

open StackLanguage

def readEnvironment : IO (List (String × String)) :=
  Settings.environmentVariables.filterMapM fun (name, _) => do
    pure ((← IO.getEnv name).map fun value => (name, value))

def readFiles (paths : List String) : IO (List (String × String)) :=
  paths.filterMapM fun (path : String) => do
    try
      pure (some (path, ← IO.FS.readFile path))
    catch _ =>
      pure none

def main (arguments : List String) : IO UInt32 := do
  let stdout ← IO.getStdout
  let stderr ← IO.getStderr
  match CommandLine.invocation arguments with
  | .error .help =>
      stdout.putStrLn CommandLine.usage
      pure 0
  | .error .usage =>
      stderr.putStrLn CommandLine.usage
      pure (UInt32.ofNat CommandLine.usageCode.toNat)
  | .ok invocation =>
      let paths := (invocation.command.target?.map CommandLine.candidates).getD []
      let directory : Directory := ⟨← readFiles paths⟩
      let input ← if invocation.command.readsInput then (← IO.getStdin).readToEnd
      else pure ""
      let report := CommandLine.execute directory (← readEnvironment) input invocation
      stdout.putStr report.output
      stderr.putStr (String.join (report.notices.map CommandLine.noticeLine))
      match report.result with
      | .ok code => pure (UInt32.ofNat (code % 256).toNat)
      | .error _ => pure 1
