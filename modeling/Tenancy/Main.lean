import Tenancy.CommandLine

open Tenancy

def readFile (path : String) : IO FileText := do
  try
    return .ofBytes (← IO.FS.readBinFile path)
  catch
    | .inappropriateType .. => return .error .isDirectory
    | .resourceExhausted .. => return .error .notDirectory
    | _ => return .error .missing

def runInvocation (i : CommandLine.Invocation) : IO UInt32 := do
  let files ← i.paths.mapM fun path => return (path, ← readFile path)
  let now ← IO.monoNanosNow
  let read (path : String) := (files.lookup path).getD (.error .missing)
  let run := CommandLine.run now read i
  IO.print (run.output fun s => toString (s.secondsLeft now))
  IO.eprint run.complaint
  return run.exitCode

def main (arguments : List String) : IO UInt32 := do
  match CommandLine.parse arguments with
  | .invocation i => runInvocation i
  | .help topic =>
    IO.print topic.text
    return 0
  | .misuse =>
    IO.eprintln "error: these arguments make no sense\n\nFor more information, try '--help'."
    return 2
