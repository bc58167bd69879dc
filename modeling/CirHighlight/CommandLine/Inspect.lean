import CirHighlight.CommandLine.Argument

namespace CirHighlight.CommandLine.Inspect

inductive Format where
  | table
  | json
  | encoded
deriving DecidableEq

def Format.read? : String → Option Format
  | "table" => some .table
  | "json" => some .json
  | "encoded" => some .encoded
  | _ => none

inductive Verb where
  | tokens
  | delta
  | help
deriving DecidableEq

def Verb.read? : String → Option Verb
  | "tokens" => some .tokens
  | "delta" => some .delta
  | "help" => some .help
  | _ => none

inductive Command where
  | tokens (path : String) (format : Format)
  | delta (before after : String) (aligned : Bool)

structure Invocation where
  config : Option String
  command : Command

inductive Setting where
  | config
  | format
deriving DecidableEq

structure State where
  verb : Option Verb := none
  pending : Option Setting := none
  plainOnly : Bool := false
  outerConfig : Option String := none
  innerConfig : Option String := none
  format : Option Format := none
  aligned : Bool := false
  paths : List String := []

namespace State

def give (state : State) (setting : Setting) (value : String) : Except Stop State :=
  match setting, state.verb with
  | .config, none =>
    if state.outerConfig.isSome then .error .usage
    else .ok { state with outerConfig := some value, pending := none }
  | .config, some _ =>
    if state.innerConfig.isSome then .error .usage
    else .ok { state with innerConfig := some value, pending := none }
  | .format, _ =>
    match state.format, Format.read? value with
    | none, some format => .ok { state with format := some format, pending := none }
    | _, _ => .error .usage

/-- Takes an option that needs a value, which may come with the next argument. -/
def take (state : State) (setting : Setting) : Option String → Except Stop State
  | some value => state.give setting value
  | none => .ok { state with pending := some setting }

def long (state : State) (name : String) (value : Option String) : Except Stop State :=
  match name, state.verb, value with
  | "config", _, value => state.take .config value
  | "format", some .tokens, value => state.take .format value
  | "tokens", some .delta, none =>
    if state.aligned then .error .usage else .ok { state with aligned := true }
  | "version", none, none => .error .version
  | "help", _, none => .error .help
  | _, _, _ => .error .usage

def short (state : State) (letter : Char) (value : Option String) : Except Stop State :=
  match letter, state.verb with
  | 'c', _ => state.take .config value
  | 'f', some .tokens => state.take .format value
  | 'V', none => .error .version
  | 'h', _ => .error .help
  | _, _ => .error .usage

/-- How many files a command needs; help is given on at most one command. -/
def pathCount : Verb → Nat
  | .tokens | .help => 1
  | .delta => 2

/-- Takes a plain argument: the name of the command, a file, or the command on which help is
wanted. -/
def plain (state : State) (text : String) : Except Stop State :=
  match state.verb with
  | none =>
    if state.plainOnly then .error .usage
    else
      match Verb.read? text with
      | some verb => .ok { state with verb := some verb }
      | none => .error .usage
  | some verb =>
    if verb = .help && (Verb.read? text).isNone then .error .usage
    else if pathCount verb ≤ state.paths.length then .error .usage
    else .ok { state with paths := state.paths ++ [text] }

/-- Takes the next argument. After the command that gives help no argument is an option. -/
def step (state : State) (text : String) : Except Stop State :=
  match state.pending with
  | some setting =>
    match Argument.read text with
    | .plain value => state.give setting value
    | _ => .error .usage
  | none =>
    if state.plainOnly || state.verb = some .help then state.plain text
    else
      match Argument.read text with
      | .separator => .ok { state with plainOnly := true }
      | .long name value => state.long name value
      | .short letter value => state.short letter value
      | .plain text => state.plain text

def finish (state : State) : Except Stop Invocation :=
  let config := state.innerConfig <|> state.outerConfig
  match state.pending, state.verb, state.paths with
  | none, some .tokens, [path] =>
    .ok { config, command := .tokens path (state.format.getD .table) }
  | none, some .delta, [before, after] =>
    .ok { config, command := .delta before after state.aligned }
  | none, some .help, _ => .error .help
  | _, _, _ => .error .usage

end State

def read (arguments : List String) : Except Stop Invocation := do
  let state ← arguments.foldlM State.step {}
  state.finish

end CirHighlight.CommandLine.Inspect
