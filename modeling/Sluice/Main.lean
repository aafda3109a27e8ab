import Sluice.Arguments
import Sluice.Output
import Sluice.Session
/-!
# The command

`sluice` reads its settings from the command line and a settings file, takes one payload per line
from standard input, and writes the records as lines of JSON. A payload that is too long or holds no
records is reported on standard error and skipped.
-/
open Sluice

/-- What is shown when help is asked for. -/
def usageText : String := "Usage: sluice [OPTIONS]

Options:
  -c, --config <FILE>                          Settings file
      --brokers <BROKERS>...                   Broker addresses
  -t, --topic <TOPIC>                          Pattern that selects topics
  -g, --group <GROUP>                          Consumer group
      --refresh-interval <REFRESH_INTERVAL>    How often topics are selected again
      --topic-tag <TOPIC_TAG>                  Tag that receives the topic
      --max-undelivered <MAX_UNDELIVERED>      Limit of undelivered messages
  -o, --output-file <OUTPUT_FILE>              Write records to a file
  -d, --debug                                  Log at the debug level
      --json-logs                              Log in JSON
      --log-level <LOG_LEVEL>                  Level of the log [default: info]
  -h, --help                                   Print help
  -V, --version                                Print version"

/-- What is shown for a command line that is not followed. -/
def usageMessage : UsageError → String
  | .unknown => "error: unexpected argument found"
  | .noValue => "error: a value is required"
  | .badValue => "error: invalid value"
  | .repeated => "error: an argument cannot be used multiple times"
  | .unneeded => "error: unexpected value for an argument"
  | .help => usageText
  | .version => "sluice 0.1.0"

/-- Reads the settings file that is named, if one is. -/
def readSettingsFile (name : Option String) : IO (Except RelayError (List UInt8)) := do
  match name with
  | none => return .ok []
  | some name =>
    try
      return .ok (← IO.FS.readBinFile name).toList
    catch e => return .error (.io (toString e))

/-- Writes the records of a payload as lines. -/
def relayLine (rules : Rules) (out err : IO.FS.Stream) (number : Nat) (line : String) : IO Unit := do
  let m := Message.plain "stdin" 0 number (Text.Utf8.encodeText line)
  if rules.tooLong m then err.putStrLn (RelayError.tooLarge m.size rules.maxLen).message
  else
    match rules.parse m.payload with
    | .error e => err.putStrLn e.message
    | .ok records =>
      for r in rules.tagged m records do
        out.putStrLn r.lineText
      out.flush

/-- Relays lines until the input ends. -/
partial def relayLines (rules : Rules) (input out err : IO.FS.Stream) (number : Nat) : IO Unit := do
  let line ← input.getLine
  if line.isEmpty then return
  relayLine rules out err number (line.dropEndWhile fun c => c == '\n' || c == '\r').toString
  relayLines rules input out err (number + 1)

/-- Relays lines under settings, to a file or to standard output. -/
def relay (settings : Settings) (outputFile : Option String) : IO Unit := do
  let input ← IO.getStdin
  let err ← IO.getStderr
  let out ← match outputFile with
    | none => IO.getStdout
    | some name => pure (IO.FS.Stream.ofHandle (← IO.FS.Handle.mk name .write))
  relayLines settings.rules input out err 0

def main (args : List String) : IO UInt32 := do
  let out ← IO.getStdout
  let err ← IO.getStderr
  match Arguments.read args with
  | .error .help =>
    out.putStrLn (usageMessage .help)
    return 0
  | .error .version =>
    out.putStrLn (usageMessage .version)
    return 0
  | .error e =>
    err.putStrLn (usageMessage e)
    return 2
  | .ok a =>
    match (a.draft (← readSettingsFile a.config)).bind (·.validate) with
    | .error e =>
      err.putStrLn e.message
      return 1
    | .ok settings =>
      relay settings a.outputFile
      return 0
