import ProofScript.Command

/-!
# The program

The outer layer: it fetches the script that an invocation names, and writes what
`Invocation.respond` says.
-/

namespace ProofScript

/-- What a failed read means. -/
def FetchError.ofFailure : IO.Error → FetchError
  | .noFileOrDirectory .. => .notFound
  | .inappropriateType .. => .isDirectory
  | error => .other (toString error)

/-- Fetch the script from a file, or from the standard input if no file is
named. -/
def fetchScript (name : Option String) : IO (Except FetchError String) := do
  try
    match name with
    | some path => return decodeScript (← IO.FS.readBinFile path)
    | none => return decodeScript (← (← IO.getStdin).readBinToEnd)
  catch error => return .error (FetchError.ofFailure error)

end ProofScript

open ProofScript in
/-- Check the script that the arguments name, or the standard input. -/
def main (arguments : List String) : IO UInt32 := do
  match Invocation.ofArgs? arguments with
  | none =>
      IO.eprintln "usage: [--complete] [SCRIPT]"
      return 2
  | some invocation =>
      let filter := ((← IO.getEnv "RUST_LOG").bind LogFilter.ofName?).getD .standard
      let response := invocation.respond filter (← fetchScript invocation.script)
      IO.print response.output
      response.messages.forM IO.eprintln
      return response.exit.toUInt32
