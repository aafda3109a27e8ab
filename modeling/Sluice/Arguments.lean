import Sluice.Settings.Document
import Sluice.Text.Utf8
/-!
# The command line

Options have a long name and some a letter. Letters may stand together behind one dash, the last of
them with its value; a value may follow behind an equals sign or as the next argument, unless that
begins with a dash. After two dashes nothing more is accepted.

The values of an option are checked only when the next option comes, or at the end. An argument that
is not known is therefore reported before a bad value right before it.
-/
namespace Sluice

/-- What a command line asks for. -/
structure Arguments where
  config : Option String
  brokers : List String
  topic : Option String
  group : Option String
  refreshInterval : Option String
  topicTag : Option String
  maxUndelivered : Option Nat
  outputFile : Option String
  debug : Bool
  jsonLogs : Bool
  logLevel : String
  deriving DecidableEq, Repr

/-- Why a command line is not followed. -/
inductive UsageError where
  /-- An argument means nothing. -/
  | unknown
  /-- A value is missing, or empty where it must not be. -/
  | noValue
  /-- A value is no number. -/
  | badValue
  /-- An option that counts once was given again. -/
  | repeated
  /-- An option that takes no value was given one. -/
  | unneeded
  /-- Help was asked for. -/
  | help
  /-- The version was asked for. -/
  | version
  deriving DecidableEq, Repr

namespace Arguments

/-- Options without a value. -/
inductive Switch where
  | debug
  | jsonLogs
  | help
  | version
  deriving DecidableEq, Repr

/-- Options with a value. -/
inductive Setting where
  | config
  | brokers
  | topic
  | group
  | refreshInterval
  | topicTag
  | maxUndelivered
  | outputFile
  | logLevel
  deriving DecidableEq, Repr

/-- An option. -/
inductive Flag where
  | switch (s : Switch)
  | setting (s : Setting)
  deriving DecidableEq, Repr

/-- The option with a long name. -/
def Flag.ofName? (name : String) : Option Flag :=
  match name with
  | "config" => some (.setting .config)
  | "brokers" => some (.setting .brokers)
  | "topic" => some (.setting .topic)
  | "group" => some (.setting .group)
  | "refresh-interval" => some (.setting .refreshInterval)
  | "topic-tag" => some (.setting .topicTag)
  | "max-undelivered" => some (.setting .maxUndelivered)
  | "output-file" => some (.setting .outputFile)
  | "log-level" => some (.setting .logLevel)
  | "debug" => some (.switch .debug)
  | "json-logs" => some (.switch .jsonLogs)
  | "help" => some (.switch .help)
  | "version" => some (.switch .version)
  | _ => none

/-- The option with a letter. -/
def Flag.ofLetter? (letter : Char) : Option Flag :=
  match letter with
  | 'c' => some (.setting .config)
  | 't' => some (.setting .topic)
  | 'g' => some (.setting .group)
  | 'o' => some (.setting .outputFile)
  | 'd' => some (.switch .debug)
  | 'h' => some (.switch .help)
  | 'V' => some (.switch .version)
  | _ => none

/-- A command line without arguments. -/
def none : Arguments :=
  ⟨.none, [], .none, .none, .none, .none, .none, .none, false, false, "info"⟩

/-- The number written by a text, if it fits in 64 bits. -/
def number? (s : String) : Option Nat :=
  let digits := match s.toList with
    | '+' :: rest => rest
    | s => s
  if digits.isEmpty || !digits.all Char.isDigit then .none
  else (Settings.Field.digits? 10 digits)

/-- A path, which must not be empty. -/
def path (s : String) : Except UsageError String := if s.isEmpty then .error .noValue else .ok s

/-- Sets an option to its values, of which there is at least one. -/
def set (a : Arguments) (s : Setting) (value : String) (more : List String) :
    Except UsageError Arguments :=
  match s with
  | .config => do return { a with config := some (← path value) }
  | .brokers => .ok { a with brokers := a.brokers ++ value :: more }
  | .topic => .ok { a with topic := some value }
  | .group => .ok { a with group := some value }
  | .refreshInterval => .ok { a with refreshInterval := some value }
  | .topicTag => .ok { a with topicTag := some value }
  | .maxUndelivered =>
    match number? value with
    | some n => .ok { a with maxUndelivered := some n }
    | .none => .error .badValue
  | .outputFile => do return { a with outputFile := some (← path value) }
  | .logLevel => .ok { a with logLevel := value }

/-- A command line that is being read. -/
structure Reading where
  arguments : Arguments
  /-- The options that have been given. -/
  seen : List Flag
  /-- The option whose values are being read, with its values so far. -/
  pending : Option (Setting × List String)
  /-- Whether the next argument may be a value of that option. -/
  takes : Bool

namespace Reading

/-- Notes that an option was given. Only brokers may be given again. -/
def see (r : Reading) (f : Flag) : Except UsageError Reading :=
  if f ≠ .setting .brokers ∧ f ∈ r.seen then .error .repeated else .ok { r with seen := f :: r.seen }

/-- Sets an option to its values. -/
def put (r : Reading) (s : Setting) (values : List String) : Except UsageError Reading :=
  match values with
  | [] => .error .noValue
  | value :: more => do
    let r ← r.see (.setting s)
    return { r with arguments := ← r.arguments.set s value more }

/-- Ends the option whose values are being read. -/
def flush (r : Reading) : Except UsageError Reading :=
  match r.pending with
  | .none => .ok r
  | some (s, values) => { r with pending := .none, takes := false }.put s values

/-- Follows an option without a value. -/
def switch (r : Reading) (s : Switch) : Except UsageError Reading := do
  let r ← r.flush
  match s with
  | .help => .error .help
  | .version => .error .version
  | .debug =>
    let r ← r.see (.switch s)
    return { r with arguments := { r.arguments with debug := true } }
  | .jsonLogs =>
    let r ← r.see (.switch s)
    return { r with arguments := { r.arguments with jsonLogs := true } }

/-- Begins an option with a value, which may be attached to it. -/
def setting (r : Reading) (s : Setting) (attached : Option String) : Except UsageError Reading := do
  let r ← r.flush
  match attached with
  | some value => r.put s [value]
  | .none => return { r with pending := some (s, []), takes := true }

/-- Follows a long option: its name, with a value attached to it or not. -/
def long (r : Reading) (text : List Char) : Except UsageError Reading :=
  let name := text.takeWhile (· ≠ '=')
  let attached := match text.drop name.length with
    | [] => .none
    | _ :: value => some (String.ofList value)
  match Flag.ofName? (String.ofList name) with
  | .none => .error .unknown
  | some (.setting s) => r.setting s attached
  | some (.switch s) => if attached.isSome then .error .unneeded else r.switch s

/-- Follows letters that stand together. -/
def letters (r : Reading) : List Char → Except UsageError Reading
  | [] => .ok r
  | x :: rest =>
    match Flag.ofLetter? x with
    | .none => .error .unknown
    | some (.switch s) =>
      match r.switch s with
      | .error e => .error e
      | .ok r => letters r rest
    | some (.setting s) =>
      r.setting s (match rest with
        | [] => .none
        | '=' :: value => some (String.ofList value)
        | value => some (String.ofList value))

/-- Takes an argument that is no option. Only brokers take more than one value. -/
def value (r : Reading) (text : String) : Except UsageError Reading :=
  match r.pending with
  | .none => .error .unknown
  | some (s, values) =>
    if r.takes then
      .ok { r with pending := some (s, values ++ [text]), takes := s == .brokers }
    else .error .unknown

/-- Follows an argument before two dashes. -/
def one (r : Reading) (text : String) : Except UsageError Reading :=
  match text.toList with
  | '-' :: '-' :: rest => r.long rest
  | '-' :: x :: rest => r.letters (x :: rest)
  | _ => r.value text

/-- Follows all arguments. -/
def all (r : Reading) : List String → Except UsageError Reading
  | [] => r.flush
  | text :: rest =>
    if text = "--" then (if rest.isEmpty then r.flush else .error .unknown)
    else
      match r.one text with
      | .error e => .error e
      | .ok r => all r rest

end Reading

/-- Reads a command line. -/
def read (args : List String) : Except UsageError Arguments := do
  let r ← (Reading.mk none [] .none false).all args
  return r.arguments

/-- The level of the log (`log_level`). -/
def level (a : Arguments) : String := if a.debug then "debug" else a.logLevel

/-- Puts what the command line says in place of what a draft says (`load_config`). -/
def override (a : Arguments) (d : Draft) : Draft :=
  { d with
    brokers := if a.brokers.isEmpty then d.brokers else a.brokers
    topics := a.topic.elim d.topics fun t => [t]
    group := a.group.getD d.group
    refreshInterval := a.refreshInterval <|> d.refreshInterval
    topicTag := a.topicTag <|> d.topicTag
    maxUndelivered := a.maxUndelivered.getD d.maxUndelivered }

/-- The draft that a command line leads to, given what the settings file holds, if it can be read. -/
def draft (a : Arguments) (file : Except RelayError (List UInt8)) : Except RelayError Draft := do
  match a.config with
  | .none => return a.override .standard
  | some _ =>
    match Text.Utf8.decodeText? (← file) with
    | some text => return a.override (← Settings.read text)
    | .none => .error (.io "stream did not contain valid UTF-8")

end Arguments
end Sluice
