import DidMessaging.Proofs.Agent.Batch

namespace DidMessaging

def Codec.framed (codec : Codec) (frame : String) : List (String × Message) :=
  (codec.collected (codec.unwrap frame).toOption).toOption.getD []

namespace SocketEvent

def Holds (content : List UInt8) : SocketEvent → Prop
  | .text frame => Text.utf8 frame = content
  | .binary bytes => bytes = content
  | .control | .closed | .failed | .cancelled => False

def messages (codec : Codec) : SocketEvent → List (String × Message)
  | .text frame => codec.framed frame
  | .binary bytes =>
    match Text.ofUtf8 bytes with
    | .ok frame => codec.framed frame
    | .error _ => []
  | .control | .closed | .failed | .cancelled => []

def ending : List SocketEvent → Except AgentError Unit
  | .text _ :: events | .binary _ :: events | .control :: events => ending events
  | .failed :: _ => .error .websocket
  | .closed :: _ | .cancelled :: _ | [] => .ok ()

end SocketEvent

namespace Codec

end Codec

namespace Agent

open Program SocketEvent

variable {live : Ports τ} {codec : Codec}

end Agent

namespace Program

variable {live : Ports τ} {w : World τ} {codec : Codec} {events : List SocketEvent}

end Program

namespace Agent

open Program SocketEvent

variable {live : Ports τ} {w : World τ} {codec : Codec}

end Agent

end DidMessaging
