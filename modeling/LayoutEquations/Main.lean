import LayoutEquations.CommandLine.Run

/-!
# The program

Reads the files that the command line names, answers it, and writes the report.
-/

namespace LayoutEquations.CommandLine

/-- The number of an error, which some calls report negated. -/
def errorNumber (code : UInt32) : Nat := min code.toNat (0 - code).toNat

def ReadError.ofError : IO.Error → ReadError
  | .noFileOrDirectory .. => .notFound
  | .permissionDenied .. => .accessDenied
  | .inappropriateType _ code _ => if errorNumber code = 20 then .notDirectory else .isDirectory
  | e@(.invalidArgument _ code _) => if errorNumber code = 36 then .nameTooLong else .other e.toString
  | .userError _ => .notText
  | e => .other e.toString

def readText (path : String) : IO (Except ReadError String) := do
  try return .ok (← IO.FS.readFile path)
  catch e => return .error (.ofError e)

end LayoutEquations.CommandLine

open LayoutEquations.CommandLine in
def main (words : List String) : IO UInt32 := do
  let files ← (filesOf words).mapM fun path => do return (path, ← readText path)
  let report := respond (fun path => (files.lookup path).getD (.error .notFound)) words
  IO.print report.stdout
  IO.eprint report.stderr
  return report.code.toUInt32
