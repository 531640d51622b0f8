import CatalogIntake.Settings.Environment

namespace CatalogIntake

open Text

inductive LogLevel
  | trace
  | debug
  | info
  | warn
  | error
  deriving DecidableEq, Repr

inductive LogOutput
  | console
  | file
  | both
  deriving DecidableEq, Repr

inductive LogFormat
  | text
  | json
  deriving DecidableEq, Repr

structure LogNameError where
  kind : String
  given : String
  deriving DecidableEq, Repr

def LogNameError.message (e : LogNameError) : String := s!"Invalid log {e.kind}: {e.given}"

namespace LogLevel

def name : LogLevel → String
  | trace => "trace"
  | debug => "debug"
  | info => "info"
  | warn => "warn"
  | error => "error"

def title : LogLevel → String
  | trace => "TRACE"
  | debug => "DEBUG"
  | info => "INFO"
  | warn => "WARN"
  | error => "ERROR"

def all : List LogLevel := [trace, debug, info, warn, error]

def ofName? (s : String) : Option LogLevel := all.find? (·.name == s)

def read (s : String) : Except LogNameError LogLevel :=
  match lowercase (trim s) with
  | "warning" => .ok warn
  | text => match ofName? text with
    | some level => .ok level
    | none => .error ⟨"level", s⟩

def decode : Json.Decoder LogLevel := Json.variant (all.map name) ofName?

end LogLevel

namespace LogOutput

def name : LogOutput → String
  | console => "console"
  | file => "file"
  | both => "both"

def all : List LogOutput := [console, file, both]

def ofName? (s : String) : Option LogOutput := all.find? (·.name == s)

def read (s : String) : Except LogNameError LogOutput :=
  match lowercase (trim s) with
  | "stdout" => .ok console
  | "all" => .ok both
  | text => match ofName? text with
    | some output => .ok output
    | none => .error ⟨"output", s⟩

def decode : Json.Decoder LogOutput := Json.variant (all.map name) ofName?

def writesFile : LogOutput → Bool
  | console => false
  | file | both => true

end LogOutput

namespace LogFormat

def name : LogFormat → String
  | text => "text"
  | json => "json"

def all : List LogFormat := [text, json]

def ofName? (s : String) : Option LogFormat := all.find? (·.name == s)

def read (s : String) : Except LogNameError LogFormat :=
  match lowercase (trim s) with
  | "pretty" => .ok text
  | name => match ofName? name with
    | some format => .ok format
    | none => .error ⟨"format", s⟩

def decode : Json.Decoder LogFormat := Json.variant (all.map name) ofName?

end LogFormat

structure LogSettings where
  level : LogLevel := .info
  output : LogOutput := .console
  format : LogFormat := .text
  dir : String := "./logs"
  filePrefix : String := "inventory"
  directives : Option String := none
  includeLocation : Bool := false
  includeThreadIds : Bool := false
  includeTargets : Bool := true
  deriving DecidableEq, Repr

namespace LogSettings

def toJson (s : LogSettings) : Json :=
  .object [("level", .string s.level.name), ("output", .string s.output.name),
    ("format", .string s.format.name), ("log_dir", .string s.dir),
    ("log_file_prefix", .string s.filePrefix),
    ("filter_directives", Json.option .string s.directives),
    ("include_location", .bool s.includeLocation),
    ("include_thread_ids", .bool s.includeThreadIds), ("include_targets", .bool s.includeTargets)]

def fields : Json.Fields LogSettings :=
  LogSettings.mk <$> .required "level" LogLevel.decode <*> .required "output" LogOutput.decode
    <*> .required "format" LogFormat.decode <*> .required "log_dir" (Json.textNamed "path string")
    <*> .required "log_file_prefix" Json.text <*> .optional "filter_directives" Json.text
    <*> .required "include_location" Json.boolean <*> .required "include_thread_ids" Json.boolean
    <*> .required "include_targets" Json.boolean

def decode : Json.Decoder LogSettings := Json.record "LogConfig" fields

def flag (env : Environment) (name : String) (current : Bool) : Bool :=
  match (env.get? name).map fun v => lowercase (trim v) with
  | some "true" | some "1" | some "yes" => true
  | some "false" | some "0" | some "no" => false
  | _ => current

def named {α : Type} (env : Environment) (name : String) (read : String → Except LogNameError α)
    (current : α) : Except LogNameError α :=
  match env.get? name with
  | some text => read text
  | none => .ok current

def merge (s : LogSettings) (env : Environment) : Except LogNameError LogSettings := do
  let level ← named env "LOG_LEVEL" LogLevel.read s.level
  let output ← named env "LOG_OUTPUT" LogOutput.read s.output
  let format ← named env "LOG_FORMAT" LogFormat.read s.format
  return {
    level, output, format
    dir := env.text "LOG_DIR" s.dir
    filePrefix := env.text "LOG_FILE_PREFIX" s.filePrefix
    directives := (env.get? "LOG_FILTER").or s.directives
    includeLocation := flag env "LOG_INCLUDE_LOCATION" s.includeLocation
    includeThreadIds := flag env "LOG_INCLUDE_THREAD_IDS" s.includeThreadIds
    includeTargets := flag env "LOG_INCLUDE_TARGETS" s.includeTargets }

end LogSettings

end CatalogIntake
