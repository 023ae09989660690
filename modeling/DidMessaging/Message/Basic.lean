import DidMessaging.Error
import DidMessaging.Message.Attachment
import DidMessaging.Message.Headers

namespace DidMessaging

open Json

inductive Direction where
  | sent
  | received
  deriving DecidableEq, Repr

def Direction.name : Direction → String
  | .sent => "SENT"
  | .received => "RECEIVED"

def Direction.shape : Shape Direction := .choice Direction.name [.sent, .received]

structure Message where
  id : String
  type : String
  sender : Option String := none
  recipient : Option String := none
  priorSender : Option String := none
  body : String
  headers : Headers := .empty
  created : String := ""
  expires : String := ""
  attachments : List Attachment := []
  thread : Option String := none
  parentThread : Option String := none
  acknowledged : List String := []
  direction : Direction := .sent
  deriving DecidableEq

namespace Message

def shape : Shape Message :=
  .record "Message"
    (.cons (.required "id" .text) <|
      .cons (.required "type" .text) <|
      .cons (.whenSet "from" .text) <|
      .cons (.whenSet "to" .text) <|
      .cons (.whenSet "from_prior" .text) <|
      .cons (.required "body" .text) <|
      .cons (.withDefault "extra_headers" Headers.shape .empty) <|
      .cons (.withDefault "created_time" .text "") <|
      .cons (.withDefault "expires_time_plus" .text "") <|
      .cons (.withDefault "attachments" Attachment.shape.list []) <|
      .cons (.whenSet "thid" .text) <|
      .cons (.whenSet "pthid" .text) <|
      .cons (.withDefault "ack" Shape.text.list []) <|
      .cons (.withDefault "direction" Direction.shape .sent) .nil)
    (fun (id, type, sender, recipient, priorSender, body, headers, created, expires, attachments,
        thread, parentThread, acknowledged, direction, _) =>
      ⟨id, type, sender, recipient, priorSender, body, headers, created, expires, attachments,
        thread, parentThread, acknowledged, direction⟩)
    (fun m => (m.id, m.type, m.sender, m.recipient, m.priorSender, m.body, m.headers, m.created,
      m.expires, m.attachments, m.thread, m.parentThread, m.acknowledged, m.direction, ()))

def withHeader (m : Message) (name value : String) : Message :=
  { m with headers := m.headers.insert name value }

def withAttachment (m : Message) (attachment : Attachment) : Message :=
  { m with attachments := m.attachments ++ [attachment] }

def parties (m : Message) : Except Error (String × String) :=
  match m.recipient, m.sender with
  | none, _ => .error .noRecipient
  | some _, none => .error .noSender
  | some recipient, some sender => .ok (sender, recipient)

end Message

end DidMessaging
