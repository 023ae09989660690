import DidMessaging.Agent.Routing

namespace DidMessaging

inductive MailboxAnswer where
  | status (message : Message)
  | delivery (message : Message)
  deriving DecidableEq

namespace MailboxAnswer

open Program

def message : MailboxAnswer → Message
  | .status m => m
  | .delivery m => m

def ofMessage (m : Message) : Except AgentError MailboxAnswer :=
  if m.hasType .mailboxStatus then .ok (.status m)
  else if m.hasType .delivery then .ok (.delivery m)
  else .error (.wrongType m.type
    s!"{MessageType.mailboxStatus.uri} or {MessageType.delivery.uri}")

def counters : MailboxAnswer → Except AgentError (Option MailboxStatus)
  | .status m =>
    match MailboxStatus.shape.parse m.body with
    | .ok counters => .ok (some counters)
    | .error fault => .error (.json fault)
  | .delivery _ => .ok none

def decodeBase64 (content : String) : Except Error String :=
  match Text.Base64.decode (Text.utf8 content) with
  | .error fault => .error (.base64 fault)
  | .ok bytes =>
    match Text.ofUtf8 bytes with
    | .ok text => .ok text
    | .error fault => .error (.invalidFormat s!"attachment is not UTF-8: {fault.message}")

def envelope? : AttachmentData → Option (Except Error String)
  | .base64 content => some (decodeBase64 content)
  | .json content => some (.ok content)
  | .signed .. | .links .. | .children .. => none

/-- The message in an attachment. One that cannot be read is reported and left out. -/
def unpackAttachment (attachment : Attachment) : Program (Option (String × Message)) :=
  match envelope? attachment.data with
  | none => return none
  | some envelope => do
    match ← (core envelope >>= unpack).attempt with
    | .ok m => return some (attachment.id, m)
    | .error e =>
      log (.attachmentSkipped attachment.id e)
      return none

def unpackAll : List Attachment → Program (List (String × Message))
  | [] => return []
  | attachment :: attachments => do
    let first ← unpackAttachment attachment
    let others ← unpackAll attachments
    return first.toList ++ others

def messages : MailboxAnswer → Program (List (String × Message))
  | .status _ => return []
  | .delivery m => unpackAll m.attachments

end MailboxAnswer

end DidMessaging
