import CirHighlight.Rpc.Message
import CirHighlight.Rpc.Method
import CirHighlight.Rpc.Shape.Client

namespace CirHighlight.Rpc

inductive Phase where
  | uninitialized
  | running
  | shutDown
  | exited
deriving DecidableEq

structure Service where
  phase : Phase := .uninitialized
  server : Server Uri := {}

inductive Reply where
  | silent
  | response (response : Response)
  | exited
  | badRequest

namespace Service

def fail (id : Option Id) (error : Error) : Reply :=
  match id with
  | none => .silent
  | some id => .response { id, result := .error error }

def outOfPhase (phase : Phase) (id : Option Id) : Reply :=
  match phase with
  | .uninitialized => fail id .notInitialized
  | _ => fail id .invalidRequest

def connect (service : Service) (message : Message) : Reply × Service :=
  if service.phase = .uninitialized then
    match message.id, message.params with
    | none, _ => (.silent, service)
    | some id, some params =>
      if Shape.connection.accepts params then
        (.response { id, result := .ok capabilities }, { service with phase := .running })
      else (fail (some id) .invalidParams, service)
    | some id, none => (fail (some id) .invalidParams, service)
  else (fail message.id .invalidRequest, service)

/-- Shuts the service down, which takes no parameters. The phase changes in any case. -/
def shutDown (service : Service) (message : Message) : Reply × Service :=
  if service.phase = .running then
    let service := { service with phase := .shutDown }
    match message.id, message.params with
    | none, _ => (.silent, service)
    | some id, none => (.response { id, result := .ok .null }, service)
    | some id, some _ => (fail (some id) .invalidParams, service)
  else (outOfPhase service.phase message.id, service)

/-- Carries out a method. A request without identifier is ignored, and a notification with one
is refused. -/
def call (provider : Provider) (service : Service) (method : Method) (message : Message) :
    Reply × Service :=
  match method, message.id with
  | .ask _, none | .unsupported _, none | .ignored, none => (.silent, service)
  | .tell _, some id | .ignored, some id => (fail (some id) .invalidRequest, service)
  | .ask read?, some id =>
    match message.params.bind read? with
    | none => (fail (some id) .invalidParams, service)
    | some request =>
      let (answer, server) := service.server.step provider request
      (.response { id, result := result answer }, { service with server })
  | .tell read?, none =>
    match message.params.bind read? with
    | none => (.silent, service)
    | some request => (.silent, { service with server := (service.server.step provider request).2 })
  | .unsupported shape, some id =>
    if message.params.any shape.accepts then (fail (some id) (.methodNotFound none), service)
    else (fail (some id) .invalidParams, service)

/-- Refuses a method that is not known; those whose names start with `$/` silently. -/
def unknown (message : Message) : Reply :=
  if ['$', '/'].isPrefixOf message.method.toList then .silent
  else fail message.id (.methodNotFound (some message.method))

def handle (provider : Provider) (service : Service) (message : Message) : Reply × Service :=
  if service.phase = .exited then (.exited, service)
  else
    match message.method with
    | "initialize" => service.connect message
    | "shutdown" => service.shutDown message
    | "exit" => (.silent, { service with phase := .exited })
    | "$/cancelRequest" => (fail message.id .invalidRequest, service)
    | name =>
      match Method.find? name with
      | none => (unknown message, service)
      | some method =>
        if service.phase = .running then service.call provider method message
        else (outOfPhase service.phase message.id, service)

def receive (provider : Provider) (service : Service) (json : Json) : Reply × Service :=
  match Message.read? json with
  | none => (.badRequest, service)
  | some message => service.handle provider message

/-- A turn of a conversation, in which a client sends a value or a text that is none. It may get
a response, and the conversation goes on or ends: it ends when the client lets the service exit or
sends what is no message. -/
def converse (provider : Provider) (service : Service) (json : Option Json) :
    Option Response × Option Service :=
  match json with
  | none => (some { id := .null, result := .error .unreadable }, none)
  | some json =>
    if Message.isResponse json then (none, some service)
    else
      match service.receive provider json with
      | (.badRequest, _) => (some { id := .null, result := .error .invalidRequest }, none)
      | (.exited, _) => (none, none)
      | (.response response, service) => (some response, some service)
      | (.silent, service) => (none, if service.phase = .exited then none else some service)

def receiveAll (provider : Provider) (service : Service) : List Json → List Reply × Service
  | [] => ([], service)
  | json :: rest =>
    let (reply, service) := service.receive provider json
    let (replies, service) := service.receiveAll provider rest
    (reply :: replies, service)

end Service

end CirHighlight.Rpc
