import DidMessaging.Message.Basic

namespace DidMessaging

open Json

inductive MessageType where
  | mediationRequest
  | mediationGrant
  | mediationDenial
  | keyListUpdate
  | deliveryRequest
  | mailboxStatus
  | delivery
  | messagesReceived
  | liveDeliveryChange
  | forward
  deriving DecidableEq, Repr

def MessageType.uri : MessageType → String
  | .mediationRequest => "https://didcomm.org/coordinate-mediation/2.0/mediate-request"
  | .mediationGrant => "https://didcomm.org/coordinate-mediation/2.0/mediate-grant"
  | .mediationDenial => "https://didcomm.org/coordinate-mediation/2.0/mediate-deny"
  | .keyListUpdate => "https://didcomm.org/coordinate-mediation/2.0/keylist-update"
  | .deliveryRequest => "https://didcomm.org/messagepickup/3.0/delivery-request"
  | .mailboxStatus => "https://didcomm.org/messagepickup/3.0/status"
  | .delivery => "https://didcomm.org/messagepickup/3.0/delivery"
  | .messagesReceived => "https://didcomm.org/messagepickup/3.0/messages-received"
  | .liveDeliveryChange => "https://didcomm.org/messagepickup/3.0/live-delivery-change"
  | .forward => "https://didcomm.org/routing/2.0/forward"

def Message.hasType (m : Message) (type : MessageType) : Bool := m.type = type.uri

structure Stamp where
  id : String
  created : String
  deriving DecidableEq, Repr

def Message.make (type body : String) (stamp : Stamp) : Message where
  id := stamp.id
  type := type
  body := body
  created := stamp.created

structure Grant where
  routingDid : String
  deriving DecidableEq, Repr

def Grant.shape : Shape Grant :=
  .record "MediationGrantBody" (.cons (.required "routing_did" .text) .nil)
    (fun (routingDid, _) => ⟨routingDid⟩) (fun grant => (grant.routingDid, ()))

def Grant.ofMessage (m : Message) : Except Error Grant :=
  if m.hasType .mediationGrant then
    (Grant.shape.parse m.body).mapError .json
  else
    .error (.invalidFormat s!"expected {MessageType.mediationGrant.uri}, got {m.type}")

structure KeyUpdate where
  recipient : String
  action : String
  deriving DecidableEq, Repr

def KeyUpdate.shape : Shape KeyUpdate :=
  .record "KeyListUpdate"
    (.cons (.required "recipient_did" .text) <|
      .cons (.required "action" .text) .nil)
    (fun (recipient, action, _) => ⟨recipient, action⟩)
    (fun u => (u.recipient, u.action, ()))

structure KeyListUpdate where
  updates : List KeyUpdate
  deriving DecidableEq, Repr

def KeyListUpdate.shape : Shape KeyListUpdate :=
  .record "KeyListUpdateBody" (.cons (.required "updates" KeyUpdate.shape.list) .nil)
    (fun (updates, _) => ⟨updates⟩) (fun u => (u.updates, ()))

/-- The counters of a mailbox; one that is not known is written `null`. -/
structure MailboxStatus where
  recipient : Option String := none
  messageCount : UInt64 := 0
  longestWait : Option UInt64 := none
  newestReceived : Option UInt64 := none
  oldestReceived : Option UInt64 := none
  totalBytes : Option UInt64 := none
  liveDelivery : Option Bool := none
  deriving DecidableEq, Repr

def MailboxStatus.shape : Shape MailboxStatus :=
  .record "PickupStatus"
    (.cons (.withDefault "recipient_did" Shape.text.optional none) <|
      .cons (.withDefault "message_count" .count 0) <|
      .cons (.withDefault "longest_waited_seconds" Shape.count.optional none) <|
      .cons (.withDefault "newest_received_time" Shape.count.optional none) <|
      .cons (.withDefault "oldest_received_time" Shape.count.optional none) <|
      .cons (.withDefault "total_bytes" Shape.count.optional none) <|
      .cons (.withDefault "live_delivery" Shape.flag.optional none) .nil)
    (fun (recipient, messageCount, longestWait, newestReceived, oldestReceived, totalBytes,
        liveDelivery, _) =>
      ⟨recipient, messageCount, longestWait, newestReceived, oldestReceived, totalBytes,
        liveDelivery⟩)
    (fun s => (s.recipient, s.messageCount, s.longestWait, s.newestReceived, s.oldestReceived,
      s.totalBytes, s.liveDelivery, ()))

inductive HostRequest where
  | mediation
  | registration (dids : List String)
  | delivery (limit : UInt32)
  | received (ids : List String)
  | liveDelivery (on : Bool)
  deriving DecidableEq, Repr

namespace HostRequest

def type : HostRequest → MessageType
  | .mediation => .mediationRequest
  | .registration _ => .keyListUpdate
  | .delivery _ => .deliveryRequest
  | .received _ => .messagesReceived
  | .liveDelivery _ => .liveDeliveryChange

def body (host : String) : HostRequest → Json
  | .mediation => .object []
  | .registration dids => KeyListUpdate.shape.write ⟨dids.map fun did => ⟨did, "add"⟩⟩
  | .delivery limit =>
    .object [("limit", .number (.natural limit.toNat)), ("recipient_did", .text host)]
  | .received ids => .object [("message_id_list", .list (ids.map .text))]
  | .liveDelivery on => .object [("live_delivery", .flag on)]

def message (request : HostRequest) (host mediator : String) (stamp : Stamp) : Message :=
  { Message.make request.type.uri (request.body host).render stamp with
    sender := some host
    recipient := some mediator }

end HostRequest

end DidMessaging
