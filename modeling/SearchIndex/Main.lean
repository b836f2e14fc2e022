import SearchIndex.CommandLine.Run

/-!
# The program

Gathers what a run needs from the machine, runs the program, and prints what it leaves. There is no
connection to any service.
-/

namespace SearchIndex.CommandLine

open Files (Disk Places ReadFault)

/-- Reads what is under a path of the machine. -/
def readPath (path : String) : IO (Except ReadFault ByteArray) := do
  try
    return .ok (← IO.FS.readBinFile path)
  catch
    | .noFileOrDirectory .. => return .error .missing
    | .inappropriateType (some _) .. => return .error .notDirectory
    | .invalidArgument .. => return .error .nameTooLong
    | _ => return .error .isDirectory

/-- A disk that holds what is under some paths of the machine. -/
def readDisk (paths : List String) : IO Disk := do
  let found ← paths.mapM fun path => return (path, ← readPath path)
  return ⟨fun path => (found.lookup path).getD (.error .missing)⟩

/-- The variables of some names. -/
def readVariables (names : List String) : IO Variables := do
  let found ← names.mapM fun name => return (name, ← IO.getEnv name)
  return ⟨found.filterMap fun (name, value) => value.map (name, ·)⟩

end SearchIndex.CommandLine

open SearchIndex.CommandLine

/-- Runs the program. -/
def main (arguments : List String) : IO UInt32 := do
  let places := ⟨(← IO.getEnv "HOME").getD "", toString (← IO.currentDir)⟩
  let paths := variableFilePaths places.current
  let disk ← readDisk paths
  let environment ← readVariables (variableNames ++ ((firstFile? disk paths).map namesIn).getD [])
  let disk ←
    match Invocation.read (environment.complete disk places.current) arguments with
    | .ok invocation => readDisk (paths ++ invocation.paths places)
    | .error _ => pure disk
  let exit := (run SearchIndex.Service.offline () ⟨disk, places, environment⟩ arguments).1
  IO.print exit.output
  IO.eprint exit.errors
  return exit.status.toUInt32
