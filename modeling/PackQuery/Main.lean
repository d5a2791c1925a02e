import PackQuery.CommandLine.Run

/-!
# The program

The command line on the files of the disk.
-/

namespace PackQuery

/-- What the system says about an operation that it refused. -/
def systemMessage : IO.Error → String
  | .noFileOrDirectory _ code details => details ++ " (os error " ++ toString code ++ ")"
  | .inappropriateType _ code details => details ++ " (os error " ++ toString code ++ ")"
  | .permissionDenied _ code details => details ++ " (os error " ++ toString code ++ ")"
  | .userError _ => "stream did not contain valid UTF-8"
  | error => toString error

/-- The result of an operation, or what the system says about it. -/
def attempt {α : Type} (operation : IO α) : IO (Except String α) := do
  try return .ok (← operation)
  catch error => return .error (systemMessage error)

/-- The files of the disk. -/
def diskFiles : Files IO where
  exists? path := do
    if path.isEmpty then return false
    let directory ← IO.currentDir
    (directory / path).pathExists
  read path := attempt (IO.FS.readFile path)
  write path text := attempt (IO.FS.writeFile path text)

/-- The environment of the process. -/
def processEnvironment : IO Environment := do
  let directory ← IO.currentDir
  return .ofVariables directory.toString (← IO.getEnv "HOME") (← IO.getEnv "XDG_CONFIG_HOME")
    (← IO.getEnv "PACKMATCH_CONFIG")

end PackQuery

/-- Run the program, show what it has to say and give its exit code. -/
def main (args : List String) : IO UInt32 := do
  let outcome ← PackQuery.CommandLine.run PackQuery.diskFiles (← PackQuery.processEnvironment) args
  IO.print outcome.output
  IO.eprint outcome.notes
  return outcome.code.toUInt32
