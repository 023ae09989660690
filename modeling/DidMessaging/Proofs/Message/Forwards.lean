import DidMessaging.Proofs.Message.Sealing

/-! Forwards and the messages that they travel in: each comes out of its own message as it was, and
what comes out of any other message is settled by the first thing that this lacks. -/

namespace DidMessaging.Forward

open Json

def FirstEnvelope (attachments : List Attachment) (envelope : String) : Prop :=
  ∃ earlier attachment later, attachments = earlier ++ attachment :: later ∧
    attachment.data = .json envelope ∧ ∀ other ∈ earlier, ∀ content, other.data ≠ .json content

/-- What comes out of a message, by what it has and what it lacks first. -/
inductive Outcome (m : Message) : Except Error Forward → Prop where
  | type (other : m.type ≠ MessageType.forward.uri) :
      Outcome m (.error (.invalidFormat s!"expected a forward message, got {m.type}"))
  | body {fault : Fault} (type : m.type = MessageType.forward.uri)
      (body : bodyShape.parse m.body = .error fault) : Outcome m (.error (.json fault))
  | attachments {next : String} (type : m.type = MessageType.forward.uri)
      (body : bodyShape.parse m.body = .ok next)
      (none : ∀ attachment ∈ m.attachments, ∀ content, attachment.data ≠ .json content) :
      Outcome m (.error (.missingMember "attachments"))
  | sender {next envelope : String} (type : m.type = MessageType.forward.uri)
      (body : bodyShape.parse m.body = .ok next) (first : FirstEnvelope m.attachments envelope)
      (unset : m.sender = none) : Outcome m (.error (.missingMember "from"))
  | mediator {next envelope sender : String} (type : m.type = MessageType.forward.uri)
      (body : bodyShape.parse m.body = .ok next) (first : FirstEnvelope m.attachments envelope)
      (sent : m.sender = some sender) (unset : m.recipient = none) :
      Outcome m (.error (.missingMember "to"))
  | taken {next envelope sender mediator : String} (type : m.type = MessageType.forward.uri)
      (body : bodyShape.parse m.body = .ok next) (first : FirstEnvelope m.attachments envelope)
      (sent : m.sender = some sender) (through : m.recipient = some mediator) :
      Outcome m (.ok ⟨m.id, next, envelope, sender, mediator⟩)

theorem envelope?_eq_some {data : AttachmentData} {envelope : String} :
    envelope? data = some envelope ↔ data = .json envelope := by
  cases data <;> simp [envelope?]

theorem envelope?_eq_none {data : AttachmentData} :
    envelope? data = none ↔ ∀ content, data ≠ .json content := by
  simp only [Option.eq_none_iff_forall_ne_some, ne_eq, envelope?_eq_some]

theorem findSome?_eq_some {attachments : List Attachment} {envelope : String} :
    (attachments.findSome? fun a => envelope? a.data) = some envelope ↔
      FirstEnvelope attachments envelope := by
  simp only [List.findSome?_eq_some_iff, envelope?_eq_some, envelope?_eq_none, FirstEnvelope]

theorem findSome?_eq_none {attachments : List Attachment} :
    (attachments.findSome? fun a => envelope? a.data) = none ↔
      ∀ attachment ∈ attachments, ∀ content, attachment.data ≠ .json content := by
  simp only [List.findSome?_eq_none_iff, envelope?_eq_none]

theorem ofMessage_of_outcome {m : Message} {result : Except Error Forward}
    (outcome : Outcome m result) : ofMessage m = result := by
  unfold ofMessage Message.hasType
  cases outcome with
  | type other =>
      simp only [other, decide_false]
      rfl
  | body type body =>
      simp only [type, decide_true, body]
      rfl
  | attachments type body none =>
      simp only [type, decide_true, body, findSome?_eq_none.2 none]
      rfl
  | sender type body first unset =>
      simp only [type, decide_true, body, findSome?_eq_some.2 first, unset]
      rfl
  | mediator type body first sent unset =>
      simp only [type, decide_true, body, findSome?_eq_some.2 first, sent, unset]
      rfl
  | taken type body first sent through =>
      simp only [type, decide_true, body, findSome?_eq_some.2 first, sent, through]
      rfl

theorem exists_outcome (m : Message) : ∃ result, Outcome m result := by
  by_cases type : m.type = MessageType.forward.uri
  swap
  · exact ⟨_, .type type⟩
  cases body : bodyShape.parse m.body with
  | error fault => exact ⟨_, .body type body⟩
  | ok next =>
      cases found : m.attachments.findSome? fun a => envelope? a.data with
      | none => exact ⟨_, .attachments type body (findSome?_eq_none.1 found)⟩
      | some envelope =>
          have first := findSome?_eq_some.1 found
          cases sent : m.sender with
          | none => exact ⟨_, .sender type body first sent⟩
          | some sender =>
              cases through : m.recipient with
              | none => exact ⟨_, .mediator type body first sent through⟩
              | some mediator => exact ⟨_, .taken type body first sent through⟩

theorem ofMessage_iff {m : Message} {result : Except Error Forward} :
    ofMessage m = result ↔ Outcome m result := by
  refine ⟨?_, ofMessage_of_outcome⟩
  rintro rfl
  obtain ⟨result, outcome⟩ := exists_outcome m
  rwa [ofMessage_of_outcome outcome]

theorem exists_firstEnvelope {attachments : List Attachment} :
    (∃ envelope, FirstEnvelope attachments envelope) ↔
      ∃ attachment ∈ attachments, ∃ content, attachment.data = .json content := by
  constructor
  · rintro ⟨envelope, earlier, attachment, later, rfl, json, -⟩
    exact ⟨attachment, List.mem_append_right _ List.mem_cons_self, envelope, json⟩
  · rintro ⟨attachment, member, content, json⟩
    cases found : attachments.findSome? fun a => envelope? a.data with
    | none => exact absurd json (findSome?_eq_none.1 found attachment member content)
    | some envelope => exact ⟨envelope, findSome?_eq_some.1 found⟩

theorem ofMessage_eq_ok {m : Message} {forward : Forward} :
    ofMessage m = .ok forward ↔
      m.type = MessageType.forward.uri ∧ bodyShape.parse m.body = .ok forward.next ∧
        FirstEnvelope m.attachments forward.envelope ∧ m.sender = some forward.sender ∧
        m.recipient = some forward.mediator ∧ m.id = forward.id := by
  rw [ofMessage_iff]
  constructor
  · intro outcome
    cases outcome with
    | taken type body first sent through => exact ⟨type, body, first, sent, through, rfl⟩
  · rintro ⟨type, body, first, sent, through, same⟩
    obtain ⟨id, next, envelope, sender, mediator⟩ := forward
    cases same
    exact .taken type body first sent through

theorem exists_ofMessage_eq_ok {m : Message} :
    (∃ forward, ofMessage m = .ok forward) ↔
      m.type = MessageType.forward.uri ∧ (∃ next, bodyShape.parse m.body = .ok next) ∧
        (∃ attachment ∈ m.attachments, ∃ content, attachment.data = .json content) ∧
        (∃ sender, m.sender = some sender) ∧ ∃ mediator, m.recipient = some mediator := by
  rw [← exists_firstEnvelope]
  constructor
  · rintro ⟨forward, taken⟩
    obtain ⟨type, body, first, sent, through, -⟩ := ofMessage_eq_ok.1 taken
    exact ⟨type, ⟨_, body⟩, ⟨_, first⟩, ⟨_, sent⟩, _, through⟩
  · rintro ⟨type, ⟨next, body⟩, ⟨envelope, first⟩, ⟨sender, sent⟩, mediator, through⟩
    exact ⟨_, ofMessage_iff.2 (.taken type body first sent through)⟩

theorem isText_body (forward : Forward) (attachmentId created : String) :
    (Json.object [("next", .text forward.next)]).IsText
      (forward.message attachmentId created).body := by
  have lawful := Shape.lawful_mono lawful_bodyShape (by decide : 1 ≤ Shape.maxLevels)
  exact isText_render (lawful.readable forward.next)

/-- A forward comes out of its message as it was, also when that has been through an envelope. The
message is of the type of forwards, with the next hop alone in its body and the envelope alone
attached. What comes out of any message is settled by what it lacks first; if it lacks nothing, a
forward does, with the envelope that is attached first, and survives a message of its own. -/
theorem survives_message {codec : Codec} (isPlain : codec.IsPlain) :
    (∀ (forward : Forward) (attachmentId created : String),
      let m := forward.message attachmentId created
      m.type = MessageType.forward.uri ∧
      (Json.object [("next", .text forward.next)]).IsText m.body ∧
      (∃ attachment, m.attachments = [attachment] ∧ attachment.data = .json forward.envelope) ∧
      ofMessage m = .ok forward ∧
      (∃ outer, codec.wrap m = .ok outer) ∧
      ∀ outer, codec.wrap m = .ok outer → ∃ opened, codec.unwrap outer = .ok opened ∧
        ofMessage opened = .ok forward) ∧
    ∀ m : Message,
      ((∃ forward, ofMessage m = .ok forward) ↔
        m.type = MessageType.forward.uri ∧ (∃ next, bodyShape.parse m.body = .ok next) ∧
          (∃ attachment ∈ m.attachments, ∃ content, attachment.data = .json content) ∧
          (∃ sender, m.sender = some sender) ∧ ∃ mediator, m.recipient = some mediator) ∧
      (∀ result, ofMessage m = result ↔ Outcome m result) ∧
      ∀ forward, ofMessage m = .ok forward →
        FirstEnvelope m.attachments forward.envelope ∧ ∀ attachmentId created,
          ofMessage (forward.message attachmentId created) = .ok forward := by
  refine ⟨fun forward attachmentId created => ?_, fun m => ?_⟩
  · intro m
    obtain ⟨order, -, packed⟩ := isPlain.pack m
    have outer := Codec.wrap_eq_ok.2 ⟨⟨rfl, rfl⟩, packed⟩
    refine ⟨rfl, forward.isText_body attachmentId created, ⟨_, rfl, rfl⟩,
      ofMessage_message forward attachmentId created .sent, ⟨_, outer⟩, fun outer wrapped => ?_⟩
    have packed := (Codec.wrap_eq_ok.1 wrapped).2
    have opened := Codec.faithful_of_isPlain isPlain m outer packed
    exact ⟨_, Codec.unwrap_eq_ok.2 ⟨m, opened, rfl⟩,
      ofMessage_message forward attachmentId created .received⟩
  · refine ⟨exists_ofMessage_eq_ok, fun result => ofMessage_iff, fun forward taken => ?_⟩
    obtain ⟨-, -, first, -⟩ := ofMessage_eq_ok.1 taken
    exact ⟨first, fun attachmentId created =>
      ofMessage_message forward attachmentId created .sent⟩

def quotedForward : Forward where
  id := "1"
  next := "did:ex:b"
  envelope := "\x7b\"ciphertext\":\"é\\n\"\x7d"
  sender := "did:ex:a"
  mediator := "did:ex:m"

def strayForward : Message where
  id := "1"
  type := MessageType.forward.uri
  sender := some "did:ex:a"
  recipient := some "did:ex:m"
  body := "\x7b\"why\": [0], \"next\": \"did:ex:b\"\x7d"
  attachments := [{ id := "2", data := .base64 "e30" }, { id := "3", data := .json "c" },
    { id := "4", data := .json "d" }]

theorem quoted_survives_message :
    Codec.plain.IsPlain ∧
    (∃ outer opened, Codec.plain.wrap (quotedForward.message "2" "now") = .ok outer ∧
      Codec.plain.unwrap outer = .ok opened ∧ ofMessage opened = .ok quotedForward) ∧
    ∃ forward, ofMessage strayForward = .ok forward ∧
      FirstEnvelope strayForward.attachments forward.envelope := by
  obtain ⟨made, taken⟩ := survives_message Codec.isPlain_plain
  obtain ⟨-, -, -, -, ⟨outer, wrapped⟩, opens⟩ := made quotedForward "2" "now"
  obtain ⟨opened, unwrapped, back⟩ := opens outer wrapped
  obtain ⟨succeeds, -, first⟩ := taken strayForward
  obtain ⟨forward, stray⟩ := succeeds.2 ⟨rfl, ⟨"did:ex:b", by decide +kernel⟩,
    ⟨_, List.mem_cons_of_mem _ List.mem_cons_self, "c", rfl⟩, ⟨_, rfl⟩, _, rfl⟩
  exact ⟨Codec.isPlain_plain, ⟨outer, opened, wrapped, unwrapped, back⟩, forward, stray,
    (first forward stray).1⟩

end DidMessaging.Forward
