import CirHighlight.CommandLine.Inspect
import CirHighlight.CommandLine.Report
import CirHighlight.Settings.Loader
import CirHighlight.Version

namespace CirHighlight.CommandLine

/-- The layers of settings of the programs: the environment, and over it the file that the command
line names. -/
def layers (config : Option String) : List Settings.Layer :=
  .environment :: (config.map (Settings.Layer.file true)).toList

def failed (message : String) : Outcome :=
  { code := 1, stderr := message ++ "\n" }

def highlighter (world : Settings.World) (config : Option String) : Except Outcome Highlighter :=
  match Settings.load world (layers config) with
  | .error (.indexBeforeStart error) =>
    .error { code := 101, stderr := (Settings.Error.indexBeforeStart error).message ++ "\n" }
  | .error error => .error (failed ("Failed to load configuration: " ++ error.message))
  | .ok settings =>
    settings.highlighter.mapError fun error =>
      failed ("Invalid highlight configuration: " ++ error.message)

namespace Inspect

def program : String := "cir"

def usage : String :=
  "Usage: cir [-c|--config FILE] tokens PATH [-f|--format table|json|encoded]\n" ++
    "       cir [-c|--config FILE] delta BEFORE AFTER [--tokens]\n" ++
    "       cir -V|--version"

def source (files : Files) (path : String) : Except Outcome String :=
  (files path).text.mapError fun error =>
    failed ("Error reading " ++ path ++ ": " ++ error.message)

def stream (highlighter : Highlighter) (path text : String) : Except Outcome TokenStream :=
  (highlighter.highlight text).mapError fun disorder =>
    failed ("Error encoding tokens of " ++ path ++ ": " ++ disorder.message)

def output (files : Files) (highlighter : Highlighter) : Command → Except Outcome String
  | .tokens path format => do
    let text ← source files path
    match format with
    | .encoded => return Report.encoded (← stream highlighter path text)
    | .json => return Report.json (highlighter.emitted text)
    | .table => return Report.table (highlighter.emitted text)
  | .delta before after aligned => do
    let old ← stream highlighter before (← source files before)
    let new ← stream highlighter after (← source files after)
    let difference := if aligned then Edit.diffTokens else Edit.diff
    return Report.edits (difference old.integers new.integers)

def run (world : Settings.World) (arguments : List String) : Outcome :=
  match read arguments with
  | .error stop => stop.outcome program usage version
  | .ok invocation =>
    let printed := do
      let highlighter ← highlighter world invocation.config
      output world.files highlighter invocation.command
    match printed with
    | .ok stdout => { code := 0, stdout }
    | .error outcome => outcome

def paths (arguments : List String) : List String :=
  match read arguments with
  | .error _ => []
  | .ok invocation =>
    let sources :=
      match invocation.command with
      | .tokens path _ => [path]
      | .delta before after _ => [before, after]
    invocation.config.toList.flatMap Settings.candidates ++ sources

end Inspect

end CirHighlight.CommandLine
