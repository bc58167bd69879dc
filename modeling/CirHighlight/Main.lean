import CirHighlight.CommandLine.Serve
import CirHighlight.Json.Reader
import CirHighlight.Rpc.Frame

namespace CirHighlight.Main

def lookUp (path : String) : IO FileEntry := do
  try
    return .content (← IO.FS.readBinFile path)
  catch error =>
    match error with
    | .inappropriateType _ code _ =>
      return if code = 21 then .directory else .notDirectory
    | .permissionDenied _ _ _ => return .denied
    | .invalidArgument _ code _ => return if code = 36 then .nameTooLong else .missing
    | _ => return .missing

def environment : IO (List (String × String)) := do
  let bytes ← IO.FS.readBinFile "/proc/self/environ"
  let entries := ((String.fromUTF8? bytes).getD "").splitOn "\x00"
  return entries.filterMap fun entry =>
    match entry.toList.span (· ≠ '=') with
    | (name, _ :: value) => some (String.ofList name, String.ofList value)
    | _ => none

def world (paths : List String) : IO Settings.World := do
  let entries ← paths.mapM fun path => return (path, ← lookUp path)
  let files : Files := fun path => ((entries.find? (·.1 = path)).map (·.2)).getD .missing
  return { files, environment := ← environment }

def finish (outcome : CommandLine.Outcome) : IO UInt32 := do
  IO.print outcome.stdout
  IO.eprint outcome.stderr
  return outcome.code

/-- The length of the content after a header; none at the end of the input. -/
partial def readHeader (input : IO.FS.Stream) (length : Option Nat) : IO (Option Nat) := do
  let line ← input.getLine
  if line.isEmpty then return none
  if Rpc.Frame.isEnd line then return some (length.getD 0)
  readHeader input (Rpc.Frame.length? line <|> length)

partial def readBytes (input : IO.FS.Stream) (count : Nat) (done : ByteArray) : IO ByteArray := do
  if count ≤ done.size then return done
  let more ← input.read (count - done.size).toUSize
  if more.isEmpty then return done
  readBytes input count (done ++ more)

/-- Serves a client until its input ends or it lets the service exit. -/
partial def serve (provider : Provider) (input output : IO.FS.Stream) (service : Rpc.Service) :
    IO Unit := do
  match ← readHeader input none with
  | none => return
  | some length =>
    let bytes ← readBytes input length .empty
    let json := (String.fromUTF8? bytes).bind Json.read?
    let (response, next) := service.converse provider json
    match response with
    | some response =>
      output.putStr (Rpc.Frame.render response.toJson)
      output.flush
    | none => pure ()
    match next with
    | some service => serve provider input output service
    | none => return

end CirHighlight.Main

def main (arguments : List String) : IO UInt32 := do
  let name := (← IO.appPath).fileName
  if name = some CirHighlight.Rpc.serverName then
    let world ← CirHighlight.Main.world (CirHighlight.CommandLine.Serve.paths arguments)
    match CirHighlight.CommandLine.Serve.start world arguments with
    | .error outcome => CirHighlight.Main.finish outcome
    | .ok highlighter =>
      CirHighlight.Main.serve highlighter.provider (← IO.getStdin) (← IO.getStdout) {}
      return 0
  else
    let world ← CirHighlight.Main.world (CirHighlight.CommandLine.Inspect.paths arguments)
    CirHighlight.Main.finish (CirHighlight.CommandLine.Inspect.run world arguments)
