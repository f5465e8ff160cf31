import Scoping.CommandLine.Run
import Scoping.Diagnostic.Ansi

namespace Scoping.CommandLine

def usage : String := "\n".intercalate [
  "Replays declaration scripts against a scoped symbol table",
  "",
  "Usage: scoping [OPTIONS] <FILE>",
  "",
  "Options:",
  "      --dump-symbols             Print the scopes still open at the end of the script",
  "      --max-name-length <BYTES>  The longest identifier accepted [default: 99]",
  "      --max-tag-length <BYTES>   The longest type or kind tag accepted [default: 9]",
  "      --no-color                 Disable colored diagnostics",
  "  -h, --help                     Print help"]

def ArgumentFault.message : ArgumentFault → String
  | missingFile => "no file is given"
  | unknown => "an argument is not expected"
  | badNumber => "a length is not a number"
  | missingValue => "an argument has no value"
  | repeated => "an argument is given twice"
  | unexpectedValue => "a flag takes no value"
  | helpRequested => usage

def readFault : IO.Error → ReadFault
  | .noFileOrDirectory .. => .notFound
  | .inappropriateType _ 21 _ => .isDirectory
  | .inappropriateType .. => .notDirectory
  | error => .other (toString error)

def readSource (file : String) : IO (Except ReadFault String) := do
  try
    return decodeFile (← IO.FS.readBinFile file)
  catch error =>
    return .error (readFault error)

def writeFault : IO.Error → String
  | .resourceVanished .. => brokenPipe
  | error => toString error

def printResult (painter : Painter) (result : Result) : IO UInt32 := do
  try
    IO.print result.output
    (← IO.getStdout).flush
  catch error =>
    IO.eprint (Result.unwritten painter (writeFault error)).errors
    return 1
  IO.eprint result.errors
  return if result.success then 0 else 1

def program (words : List String) : IO UInt32 := do
  match Arguments.parse words with
  | .error .helpRequested =>
    IO.println usage
    return 0
  | .error fault =>
    IO.eprintln s!"error: {fault.message}\n\n{usage}"
    return 2
  | .ok arguments =>
    let terminal : Painter := if ← (← IO.getStdout).isTty then .ansi else .plain
    let source ← readSource arguments.file
    printResult (arguments.painter terminal) (run arguments source terminal {})

end Scoping.CommandLine

def main (words : List String) : IO UInt32 := Scoping.CommandLine.program words
