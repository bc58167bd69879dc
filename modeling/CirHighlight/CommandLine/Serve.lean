import CirHighlight.CommandLine.Run
import CirHighlight.Rpc.Service

namespace CirHighlight.CommandLine.Serve

def usage : String :=
  "Usage: cir-lsp [-c|--config FILE]\n       cir-lsp -V|--version"

structure State where
  config : Option String := none
  pending : Bool := false
  plainOnly : Bool := false

namespace State

def give (state : State) (value : String) : Except Stop State :=
  if state.config.isSome then .error .usage
  else .ok { state with config := some value, pending := false }

/-- Takes the option for the configuration file, whose value may come with the next argument. -/
def take (state : State) : Option String → Except Stop State
  | some value => state.give value
  | none => .ok { state with pending := true }

def step (state : State) (text : String) : Except Stop State :=
  match state.pending, Argument.read text with
  | true, .plain value => state.give value
  | true, _ => .error .usage
  | false, argument =>
    if state.plainOnly then .error .usage
    else
      match argument with
      | .separator => .ok { state with plainOnly := true }
      | .long "config" value | .short 'c' value => state.take value
      | .long "version" none | .short 'V' _ => .error .version
      | .long "help" none | .short 'h' _ => .error .help
      | _ => .error .usage

end State

def read (arguments : List String) : Except Stop (Option String) := do
  let state ← arguments.foldlM State.step {}
  if state.pending then .error .usage else .ok state.config

/-- Starts the program: the highlighter that it serves with, or how it ends at once. -/
def start (world : Settings.World) (arguments : List String) : Except Outcome Highlighter :=
  match read arguments with
  | .error stop => .error (stop.outcome Rpc.serverName usage version)
  | .ok config => highlighter world config

def paths (arguments : List String) : List String :=
  match read arguments with
  | .ok (some config) => Settings.candidates config
  | _ => []

/-- The responses to what a client sends, in order, until the conversation ends. -/
def responses (provider : Provider) (service : Rpc.Service) : List Json → List Rpc.Response
  | [] => []
  | json :: rest =>
    match service.converse provider (some json) with
    | (response, none) => response.toList
    | (response, some service) => response.toList ++ responses provider service rest

end CirHighlight.CommandLine.Serve
