import PaymentConnector.CommandLine.Report

/-!
The program: it reads the files that its arguments name, writes the log to the
standard error output, and ends with the code of its report.
-/

namespace PaymentConnector.CommandLine

def usageText : String :=
  "usage: [-h] [--connector ID] [--base-url URL] [-v] \x7bbuild,parse\x7d ..."

def Command.paths : Command → List String
  | .build _ data _ => [data]
  | .parse _ data response _ => [data, response]

/-- The fault that an error of the system stands for. -/
def faultOf : IO.Error → FileFault
  | .noFileOrDirectory _ _ _ => .missing
  | .inappropriateType _ _ _ => .isDirectory
  | e => ⟨5, toString e⟩

def readPath (path : String) : IO (Except FileFault (List UInt8)) := do
  try
    let bytes ← IO.FS.readBinFile path
    return .ok bytes.toList
  catch e =>
    return .error (faultOf e)

/-- The files at some paths, read once, and the standard input if a path asks for it. -/
def gather (paths : List String) : IO Sources := do
  let files ← (paths.filter (· ≠ inputPath)).mapM fun path => do
    return (tidyPath path, ← readPath (tidyPath path))
  let input ← if paths.contains inputPath then (← IO.getStdin).readToEnd else pure ""
  return ⟨fun path => (files.lookup path).getD (.error .missing), input.toList⟩

def LogRecord.line (r : LogRecord) : String :=
  r.source.name ++ " - " ++ r.level.name ++ " - " ++ r.message

def finish (r : Report) : IO UInt32 := do
  for record in r.log do
    IO.eprintln (LogRecord.line record)
  IO.print (String.ofList r.output)
  return UInt32.ofNat r.exit

def runProgram (arguments : List String) : IO UInt32 := do
  match Invocation.read arguments with
  | .error .help =>
    IO.println usageText
    return 0
  | .error .usage =>
    IO.eprintln usageText
    return 2
  | .ok invocation =>
    let sources ← gather ((invocation.command.map Command.paths).getD [])
    let environment ← IO.getEnv Settings.environmentKey
    match invocation.report sources environment with
    | .ok report => finish report
    | .error e =>
      IO.eprintln e.message
      return 1

end PaymentConnector.CommandLine

def main (arguments : List String) : IO UInt32 :=
  PaymentConnector.CommandLine.runProgram arguments
