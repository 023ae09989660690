import DidMessaging.Error

namespace DidMessaging

inductive LogLevel where
  | debug
  | info
  | warn
  | error
  deriving DecidableEq, Repr

inductive LogValue where
  | text (value : String)
  | number (value : Nat)
  deriving DecidableEq, Repr

inductive LogEvent where
  | sendingForward (sender mediator type : String)
  | sending (sender recipient type : String)
  | errorStatus (status : UInt16) (uri : String) (length : Nat)
  | responseNotText (id : String)
  | responseNotUnpacked (id : String) (error : AgentError)
  | recovered (mediator : String)
  | refused (mediator : String) (error : Error)
  | granted (mediator routing : String)
  | registered (count : Nat) (mediator : String)
  | attachmentSkipped (id : String) (error : AgentError)
  | listening (url : String)
  | stoppedListening (url : String)
  | frameNotText
  | frameNotUnpacked (error : AgentError)
  | frameSkipped (error : AgentError)
  | received (actor attachmentId type id : String)
  deriving DecidableEq, Repr

namespace LogEvent

def level : LogEvent → LogLevel
  | sendingForward .. | sending .. | responseNotText .. | responseNotUnpacked .. | refused ..
  | registered .. => .debug
  | recovered .. | granted .. | listening .. | stoppedListening .. | received .. => .info
  | attachmentSkipped .. | frameNotText | frameNotUnpacked .. | frameSkipped .. => .warn
  | errorStatus .. => .error

def message : LogEvent → String
  | sendingForward _ _ type => s!"Sending forward message with internal message type {type}"
  | sending _ _ type => s!"Sending message with type {type}"
  | errorStatus status _ _ => s!"Calling api result in {status.toNat} error"
  | responseNotText id => s!"Response to {id} is not UTF-8"
  | responseNotUnpacked id error => s!"Could not unpack response to {id}: {error.message}"
  | recovered _ => "Booted registered mediator"
  | refused mediator error => s!"Mediation refused by {mediator}: {error.message}"
  | granted _ _ => "Mediation granted"
  | registered count mediator => s!"Registered {count} DIDs with {mediator}"
  | attachmentSkipped _ error => s!"Skipping attachment: {error.message}"
  | listening url => s!"Listening for live delivery on {url}"
  | stoppedListening url => s!"Stopped listening on {url}"
  | frameNotText => "Skipping non UTF-8 frame"
  | frameNotUnpacked error => s!"Skipping frame that failed to unpack: {error.message}"
  | frameSkipped error => s!"Skipping frame: {error.message}"
  | received .. => "Received message"

def fields : LogEvent → List (String × LogValue)
  | sendingForward sender mediator _ =>
    [("sender", .text sender), ("receiver", .text mediator)]
  | sending sender recipient _ => [("sender", .text sender), ("receiver", .text recipient)]
  | errorStatus status uri length =>
    [("status", .number status.toNat), ("uri", .text uri), ("body_len", .number length)]
  | recovered mediator => [("mediator", .text mediator)]
  | granted mediator routing => [("mediator", .text mediator), ("routing", .text routing)]
  | attachmentSkipped id _ => [("attachment", .text id)]
  | received actor attachmentId type id =>
    [("actor", .text actor), ("attachment_id", .text attachmentId), ("message_type", .text type),
      ("message_id", .text id)]
  | _ => []

end LogEvent

end DidMessaging
