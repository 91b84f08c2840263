import PointOfFocus.CommandLine.Command

/-!
# The program

The outermost layer: it carries out the steps of a plan one by one and prints the outcome. It has no access to a
network, so every request fails, as it does where an endpoint cannot be reached.
-/

namespace PointOfFocus

open PointOfFocus.Endpoint (Reply)
open PointOfFocus.Settings (Environment Homes)

/-- The code with which the system refuses to read a directory as a file. -/
def directoryCode : UInt32 := 21

/-- Looks up a path. -/
def lookUpPath (path : String) : IO Entry := do
  try
    return .file (← IO.FS.readFile path)
  catch
    | .inappropriateType _ code _ => return if code = directoryCode then .directory else .missing
    | _ => return .missing

/-- Reads all lines of a stream. -/
partial def readLines (stream : IO.FS.Stream) (before : String) : IO String := do
  let line ← stream.getLine
  if line.isEmpty then return before else readLines stream (before ++ line)

/-- The reply to every request. -/
def noNetwork : Reply where
  response := .failed "The network is not available."
  elapsed := .ofInt 0

/-- Carries out a plan. -/
def carryOut {α : Type} : Plan α → IO α
  | .done answer => return answer
  | .send _ next => carryOut (next noNetwork)
  | .lookUp path next => do
    let entry ← lookUpPath path
    carryOut (next entry)
  | .readInput next => do
    let text ← readLines (← IO.getStdin) ""
    carryOut (next text)

/-- The table of the users of the system. -/
def userTable : IO String := do
  match ← lookUpPath "/etc/passwd" with
  | .file table => return table
  | _ => return ""

/-- The environment of the program. -/
def currentEnvironment : IO Environment := do
  let directory ← IO.currentDir
  let home ← IO.getEnv "HOME"
  let configured ← IO.getEnv "SPARQLED_CONFIG_PATH"
  return { directory := .read directory.toString, homes := .ofTable home (← userTable), configured }

end PointOfFocus

open PointOfFocus in
/-- Runs the program with the given arguments. -/
def main (args : List String) : IO UInt32 := do
  let outcome ← carryOut (CommandLine.plan (← currentEnvironment) args)
  IO.print outcome.stdout
  IO.eprint outcome.stderr
  match outcome.fault with
  | some fault => IO.eprintln fault.message
  | none => pure ()
  return outcome.exitCode.toUInt32
