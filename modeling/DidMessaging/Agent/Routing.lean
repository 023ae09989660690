import DidMessaging.Agent.Program
import DidMessaging.Did.Syntax
import DidMessaging.Message.Forward
import DidMessaging.Text.Utf8

namespace DidMessaging

structure Routing where
  serviceType : String := "DIDCommMessaging"
  contentType : String := "application/didcomm-encrypted+json"
  deriving DecidableEq, Repr

open Json in
def Routing.shape : Shape Routing :=
  .record "RouterConfig"
    (.cons (.required "service_type" .text) <|
      .cons (.required "content_type" .text) .nil)
    (fun (serviceType, contentType, _) => ⟨serviceType, contentType⟩)
    (fun r => (r.serviceType, r.contentType, ()))

namespace Program

def resolve (did : String) : Program Document := do
  core (← perform (.resolve did))

def pack (m : Message) : Program String := do
  let _ ← core m.parties
  core (← perform (.pack m))

def unpack (envelope : String) : Program Message := do
  let m ← core (← perform (.unpack envelope))
  return { m with direction := .received }

end Program

namespace Routing

open Program

def endpoint (routing : Routing) (did : String) (document : Document) : Program String :=
  match document.service? routing.serviceType with
  | some service => .done service.endpoint.uri
  | none => .fail (.noService (some did))

/-- The address of a mediator, which must not route through yet another agent. -/
def mediatorAddress (routing : Routing) (mediator : String) : Program String := do
  let document ← resolve mediator
  let uri ← routing.endpoint mediator document
  if isDid uri then .fail (.mediatorChain mediator uri) else return uri

def request (routing : Routing) (uri envelope : String) : Request :=
  (Request.post uri envelope).withHeader "Content-Type" routing.contentType

/-- Posts an envelope. The status of the response is only logged; an empty body is no answer. -/
def post (routing : Routing) (uri envelope : String) : Program (Option (List UInt8)) := do
  let response ← core (← perform (.exchange (routing.request uri envelope)))
  if response.isError then
    log (.errorStatus response.status uri envelope.utf8ByteSize)
  return if response.body.isEmpty then none else some response.body

def sendForward (routing : Routing) (type sender recipient mediator envelope : String) :
    Program (Option (List UInt8)) := do
  let address ← routing.mediatorAddress mediator
  let forward : Forward := ⟨← perform .freshId, recipient, envelope, sender, mediator⟩
  log (.sendingForward sender mediator type)
  let attachmentId ← perform .freshId
  let created ← perform .now
  let packed ← pack (forward.message attachmentId created)
  routing.post address packed

def sendDirect (routing : Routing) (type sender recipient uri envelope : String) :
    Program (Option (List UInt8)) := do
  log (.sending sender recipient type)
  routing.post uri envelope

def send (routing : Routing) (m : Message) : Program (Option (List UInt8)) := do
  let (sender, recipient) ← core m.parties
  if m.direction = .received then
    .fail (.alreadyReceived m.id)
  else
    let document ← resolve recipient
    let envelope ← pack m
    let uri ← routing.endpoint recipient document
    if isDid uri then routing.sendForward m.type sender recipient uri envelope
    else routing.sendDirect m.type sender recipient uri envelope

def readResponse (id : String) (body : List UInt8) : Program (Option Message) :=
  match Text.ofUtf8 body with
  | .error _ => do
    log (.responseNotText id)
    return none
  | .ok text =>
    if text = "" ∨ text = "null" then return none
    else do
      match ← (unpack text).attempt with
      | .ok response => return some response
      | .error e =>
        log (.responseNotUnpacked id e)
        return none

def sendAndParse (routing : Routing) (m : Message) : Program (Option Message) := do
  match ← routing.send m with
  | none => return none
  | some body => readResponse m.id body

end Routing

end DidMessaging
