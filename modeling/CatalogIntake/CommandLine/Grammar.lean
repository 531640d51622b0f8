namespace CatalogIntake.CommandLine

/-- Why a command line is not carried out; asking for help or the version is among the reasons. -/
inductive UsageError
  | help
  | version
  | helpInstead
  | missingCommand
  | unknownCommand
  | unknownArgument
  | missingArgument
  | missingValue
  | invalidValue
  | repeated
  | unwantedValue
  deriving DecidableEq, Repr

def UsageError.exitCode : UsageError → Nat
  | .help | .version => 0
  | _ => 2

/-- A value: its name in the reference, which texts it may have, and the text it has when it is not
given. -/
structure Value where
  name : String
  accepts : String → Bool
  default : Option String := none

inductive Action
  | set
  | take (value : Value)
  | help
  | version

structure Switch where
  long : String
  short : Option Char
  about : String
  action : Action

structure Positional where
  value : Value
  about : String

structure Command where
  name : String
  about : String
  positionals : List Positional := []
  switches : List Switch := []

structure Grammar where
  name : String
  about : String
  commands : List Command
  switches : List Switch := []

def helpSwitch : Switch := ⟨"help", some 'h', "Print help", .help⟩

def versionSwitch : Switch := ⟨"version", some 'V', "Print version", .version⟩

def Grammar.switchesOf (g : Grammar) (c : Command) : List Switch :=
  c.switches ++ g.switches ++ [helpSwitch]

abbrev Matches := List (String × String)

/-- An argument whose value is still to come, or has come and is still to be checked. -/
structure Open where
  name : String
  accepts : String → Bool
  text : Option String

structure State where
  found : Matches := []
  awaited : Option Open := none
  position : Nat := 0
  /-- After two hyphens everything is positional. -/
  literal : Bool := false

namespace State

def record (s : State) (name text : String) : Except UsageError State :=
  if s.found.any (·.1 == name) then .error .repeated
  else .ok { s with found := s.found ++ [(name, text)] }

def close (s : State) : Except UsageError State :=
  match s.awaited with
  | none => .ok s
  | some ⟨_, _, none⟩ => .error .missingValue
  | some ⟨name, accepts, some text⟩ => do
    let s ← record { s with awaited := none } name text
    if accepts text then return s else throw .invalidValue

def closeWith (s : State) (name : String) (accepts : String → Bool) (text : String) :
    Except UsageError State := do
  let s ← s.close
  close { s with awaited := some ⟨name, accepts, some text⟩ }

def apply (s : State) (switch : Switch) : Except UsageError State := do
  let s ← s.close
  match switch.action with
  | .help => throw .help
  | .version => throw .version
  | _ => s.record switch.long "true"

def expect (s : State) (switch : Switch) (value : Value) (text : Option String) :
    Except UsageError State := do
  match text with
  | some text => s.closeWith switch.long value.accepts text
  | none =>
    let s ← s.close
    return { s with awaited := some ⟨switch.long, value.accepts, none⟩ }

def isAwaiting (s : State) : Bool :=
  match s.awaited with
  | some ⟨_, _, none⟩ => true
  | _ => false

def give (s : State) (text : String) : State :=
  { s with awaited := s.awaited.map fun o => { o with text := some text } }

def readLong (s : State) (switches : List Switch) (name : List Char) :
    Except UsageError State :=
  let key := String.ofList (name.takeWhile (· != '='))
  let text := match name.dropWhile (· != '=') with
    | [] => none
    | _ :: rest => some (String.ofList rest)
  match switches.find? (·.long == key) with
  | none => .error .unknownArgument
  | some switch =>
    match switch.action, text with
    | .take value, text => s.expect switch value text
    | _, some _ => .error .unwantedValue
    | _, none => s.apply switch

/-- Switches by their letters; what follows the letter of one that takes a value is the value. -/
def readShort (switches : List Switch) : State → List Char → Except UsageError State
  | s, [] => .ok s
  | s, c :: rest =>
    match switches.find? (·.short == some c) with
    | none => .error .unknownArgument
    | some switch =>
      match switch.action with
      | .take value =>
        match rest with
        | [] => s.expect switch value none
        | '=' :: text => s.expect switch value (some (String.ofList text))
        | text => s.expect switch value (some (String.ofList text))
      | _ => do readShort switches (← s.apply switch) rest

def readPositional (s : State) (positionals : List Positional) (text : String) :
    Except UsageError State :=
  match positionals[s.position]? with
  | none => .error .unknownArgument
  | some p => do
    let s ← s.close
    return { s with
      awaited := some ⟨p.value.name, p.value.accepts, some text⟩
      position := s.position + 1 }

def read (switches : List Switch) (positionals : List Positional) (s : State) (text : String) :
    Except UsageError State :=
  if s.literal then s.readPositional positionals text
  else match text.toList with
    | ['-', '-'] => .ok { s with literal := true }
    | '-' :: '-' :: name => s.readLong switches name
    | '-' :: c :: rest => readShort switches s (c :: rest)
    | _ => if s.isAwaiting then .ok (s.give text) else s.readPositional positionals text

/-- All arguments are there: checks the last one, then whether any is missing. -/
def finish (positionals : List Positional) (s : State) : Except UsageError Matches := do
  let s ← s.close
  if s.position < positionals.length then throw .missingArgument
  return s.found

end State

namespace Grammar

def command? (g : Grammar) (name : String) : Option Command := g.commands.find? (·.name == name)

def helpCommand : String := "help"

def readHelp (g : Grammar) : List String → UsageError
  | [] => .help
  | [name] => if name = helpCommand || (g.command? name).isSome then .help else .unknownCommand
  | _ => .unknownCommand

def readCommand (g : Grammar) (c : Command) (args : List String) : Except UsageError Matches := do
  let s ← args.foldlM (State.read (g.switchesOf c) c.positionals) {}
  s.finish c.positionals

structure Call where
  command : Command
  own : Matches
  general : Matches

def readFrom (g : Grammar) (switches : List Switch) (s : State) :
    List String → Except UsageError Call
  | [] => .error (if s.found.isEmpty then .helpInstead else .missingCommand)
  | text :: rest =>
    if s.literal then
      .error (if text = helpCommand || (g.command? text).isSome then .unknownArgument
        else .unknownCommand)
    else if text = helpCommand then .error (g.readHelp rest)
    else match g.command? text with
      | some c => (g.readCommand c rest).map fun own => ⟨c, own, s.found⟩
      | none =>
        match State.read switches [] s text with
        | .ok s => g.readFrom switches s rest
        | .error .unknownArgument =>
          .error (if text.toList.head? = some '-' && text.length > 1 then .unknownArgument
            else .unknownCommand)
        | .error e => .error e

/-- Reads a command line; a program without a version has no switch to show it. -/
def read (g : Grammar) (versioned : Bool) (args : List String) : Except UsageError Call :=
  let own := if versioned then [versionSwitch] else []
  g.readFrom (g.switches ++ [helpSwitch] ++ own) {} args

end Grammar

def Matches.text (m : Matches) (name default : String) : String := (m.lookup name).getD default

def Matches.has (m : Matches) (name : String) : Bool := (m.lookup name).isSome

end CatalogIntake.CommandLine
