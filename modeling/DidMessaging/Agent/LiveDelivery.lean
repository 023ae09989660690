import DidMessaging.Agent.Relationship
import DidMessaging.Url.Web

namespace DidMessaging.Agent

open Program

def deliverAll : List (String × Message) → Program Unit
  | [] => return
  | (attachmentId, m) :: messages => do
    perform (.deliver attachmentId m)
    deliverAll messages

def handleFrame (frame : String) : Program Unit := do
  match ← (unpack frame).attempt with
  | .error e => log (.frameNotUnpacked e)
  | .ok m =>
    match MailboxAnswer.ofMessage m with
    | .error e => log (.frameSkipped e)
    | .ok answer => deliverAll (← answer.messages)

/-- Handles frame after frame until the socket is closed or the listener has had enough. -/
def watch : List SocketEvent → Program Unit
  | [] => return
  | .text frame :: events => do
    handleFrame frame
    watch events
  | .binary bytes :: events => do
    match Text.ofUtf8 bytes with
    | .ok frame => handleFrame frame
    | .error _ => log .frameNotText
    watch events
  | .control :: events => watch events
  | .closed :: _ => return
  | .failed :: _ => .fail .websocket
  | .cancelled :: _ => perform .disconnect

def listen (endpoint : String) : Program Unit := do
  let mediator := (← current).mediator
  match Url.WebUrl.parse endpoint with
  | none => .fail (.invalidEndpoint endpoint)
  | some url =>
    let address := url.socket.text
    match ← perform (.connect address) with
    | none => .fail .websocket
    | some events =>
      let m ← requestMessage (.liveDelivery true) mediator.host mediator.did
      let frame ← pack m
      if ← perform (.transmit frame) then
        log (.listening address)
        watch events
        log (.stoppedListening address)
      else
        .fail .websocket

end DidMessaging.Agent

namespace DidMessaging

def LogEvent.ofDelivery (actor attachmentId : String) (m : Message) : LogEvent :=
  .received actor attachmentId m.type m.id

end DidMessaging
