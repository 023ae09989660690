import DidMessaging.Message.Protocol

namespace DidMessaging

open Json

structure Forward where
  id : String
  next : String
  envelope : String
  sender : String
  mediator : String
  deriving DecidableEq, Repr

namespace Forward

def bodyShape : Shape String :=
  .record "ForwardBody" (.cons (.required "next" .text) .nil) (fun (next, _) => next)
    (fun next => (next, ()))

def attachment (forward : Forward) (id : String) : Attachment where
  id := id
  mediaType := some "application/json"
  data := .json forward.envelope

/-- The message keeps the id of the forward; its attachment gets one of its own. -/
def message (forward : Forward) (attachmentId created : String) : Message :=
  { Message.make MessageType.forward.uri (bodyShape.render forward.next) ⟨forward.id, created⟩ with
    sender := some forward.sender
    recipient := some forward.mediator
    attachments := [forward.attachment attachmentId] }

def envelope? : AttachmentData → Option String
  | .json content => some content
  | _ => none

def ofMessage (m : Message) : Except Error Forward := do
  unless m.hasType .forward do
    throw (.invalidFormat s!"expected a forward message, got {m.type}")
  let next ← (bodyShape.parse m.body).mapError .json
  let some envelope := m.attachments.findSome? fun a => envelope? a.data
    | throw (.missingMember "attachments")
  let some sender := m.sender | throw (.missingMember "from")
  let some mediator := m.recipient | throw (.missingMember "to")
  return ⟨m.id, next, envelope, sender, mediator⟩

end Forward

end DidMessaging
