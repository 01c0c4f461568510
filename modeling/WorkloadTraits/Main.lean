import WorkloadTraits.CommandLine.Reply

/-!
# The program

Reads the files that the command names, and writes the reply: manifests to the standard output,
everything else to the standard error.
-/

namespace WorkloadTraits.CommandLine

/-- Why a file cannot be opened, as the system says it. -/
def OpenFault.ofError : IO.Error → OpenFault
  | .noFileOrDirectory _ code details | .permissionDenied _ code details
  | .inappropriateType _ code details | .invalidArgument _ code details
  | .otherError code details => ofCode code.toNat details
  | e => ofCode 0 (toString e)

/-- The text of a file, or why it cannot be opened. -/
def readText (path : String) : IO (Except OpenFault String) := do
  try
    return .ok (← IO.FS.readFile path)
  catch e =>
    return .error (OpenFault.ofError e)

/-- The files that the words behind the program's name point to. -/
def readFiles (words : List String) : IO Files := do
  let paths := (Command.ofWords? words).elim [] Command.paths
  let texts ← paths.mapM fun path => do return (path, ← readText path)
  return fun path =>
    (texts.lookup path).getD (.error .notFound)

end WorkloadTraits.CommandLine

open WorkloadTraits.CommandLine in
/-- The program. -/
def main (words : List String) : IO UInt32 := do
  let r := reply (← readFiles words) words
  IO.print r.output
  for line in r.notes ++ r.failure.toList do
    IO.eprintln line
  return r.code.toUInt32
