import DidMessaging.Proofs.Agent.Asking
import DidMessaging.Proofs.Agent.Encoding

namespace DidMessaging

theorem MailboxAnswer.ofMessage_delivery {m : Message} (isDelivery : m.hasType .delivery = true) :
    ofMessage m = .ok (.delivery m) := by
  have type : m.type = MessageType.delivery.uri := of_decide_eq_true isDelivery
  have other : m.hasType .mailboxStatus = false := by
    simp [Message.hasType, type, MessageType.uri]
  rw [ofMessage, other, isDelivery]
  rfl

/-- The attachments carry the packed messages of `pairs`, in order and under their ids: as JSON, or
in base64 with all, some or none of its padding. Whatever else is attached holds no message. -/
inductive Codec.Carries (codec : Codec) : List Attachment → List (String × Message) → Prop where
  | nil : Carries codec [] []
  | json {attachment : Attachment} {envelope : String} {m : Message}
      {attachments : List Attachment} {pairs : List (String × Message)}
      (packed : codec.pack m = .ok envelope) (data : attachment.data = .json envelope)
      (others : Carries codec attachments pairs) :
      Carries codec (attachment :: attachments) ((attachment.id, m) :: pairs)
  | base64 {attachment : Attachment} {envelope : String} {m : Message} {pads : Nat}
      {attachments : List Attachment} {pairs : List (String × Message)}
      (packed : codec.pack m = .ok envelope)
      (within : pads ≤ Text.Base64.room (Text.utf8 envelope))
      (data : attachment.data = .base64 (Text.Base64.text envelope pads))
      (others : Carries codec attachments pairs) :
      Carries codec (attachment :: attachments) ((attachment.id, m) :: pairs)
  | junk {attachment : Attachment} {attachments : List Attachment}
      {pairs : List (String × Message)} (nothing : ∀ m, ¬attachment.Holds codec m)
      (others : Carries codec attachments pairs) :
      Carries codec (attachment :: attachments) pairs

def arrived (entry : String × Message) : String × Message :=
  (entry.1, { entry.2 with direction := .received })

theorem Codec.opened_of_carries {codec : Codec} (faithful : codec.Faithful)
    {attachments : List Attachment} {pairs : List (String × Message)}
    (carries : codec.Carries attachments pairs) :
    attachments.filterMap (Attachment.opened? codec) = pairs.map arrived := by
  have opens {attachment : Attachment} {m : Message} {envelope : String}
      (packed : codec.pack m = .ok envelope)
      (carried : MailboxAnswer.envelope? attachment.data = some (.ok envelope)) :
      attachment.opened? codec = some (arrived (attachment.id, m)) := by
    have unwrapped := unwrap_eq_ok.2 ⟨m, faithful m envelope packed, rfl⟩
    exact Attachment.opened?_eq_some.2
      ⟨rfl, envelope, unwrapped, Attachment.envelope?_eq_some.1 carried⟩
  induction carries with
  | nil => rfl
  | json packed data _ ih =>
      have opened := opens packed (Attachment.envelope?_eq_some.2 (.inl data))
      rw [List.filterMap_cons_some opened, ih, List.map_cons]
  | @base64 _ envelope _ pads _ _ packed within data _ ih =>
      have decoded := MailboxAnswer.decodeBase64_eq_ok.2
        ⟨pads, within, Text.Base64.text_toList envelope pads⟩
      have opened := opens packed (Attachment.envelope?_eq_some.2 (.inr ⟨_, data, decoded⟩))
      rw [List.filterMap_cons_some opened, ih, List.map_cons]
  | junk nothing _ ih => rw [List.filterMap_cons_none (Attachment.opened?_eq_none.2 nothing), ih]

theorem Codec.polled_delivery {codec : Codec} (faithful : codec.Faithful)
    (refuses : codec.RefusesBlank) {d : Message} (isDelivery : d.hasType .delivery = true)
    {pairs : List (String × Message)} (carries : codec.Carries d.attachments pairs)
    {envelope : String} (packed : codec.pack d = .ok envelope) :
    codec.polled (Text.utf8 envelope) = .ok (pairs.map arrived) := by
  have unwrapped := unwrap_eq_ok.2 ⟨d, faithful d envelope packed, rfl⟩
  have answer : MailboxAnswer.ofMessage { d with direction := .received } = .ok (.delivery _) :=
    MailboxAnswer.ofMessage_delivery isDelivery
  rw [polled, response?_utf8 refuses, unwrapped]
  change (MailboxAnswer.ofMessage { d with direction := .received }).map _ = _
  rw [answer]
  exact congrArg Except.ok (opened_of_carries faithful carries)

theorem Agent.delivery_arrives {codec : Codec} {ports : Ports σ} {w : World σ}
    (uses : ports.Uses codec) (isPlain : codec.IsPlain) {d : Message}
    (isDelivery : d.hasType .delivery = true) {pairs : List (String × Message)}
    (carries : codec.Carries d.attachments pairs) {envelope : String}
    (packed : codec.pack d = .ok envelope) {response : Response}
    (body : response.body = Text.utf8 envelope) {agent : Agent} {limit : UInt32} {request : Request}
    (answered : ⟨.exchange request, .ok response⟩ ∈
      ((agent.pickUpItems limit none).run ports w).steps) :
    ((agent.pickUpItems limit none).run ports w).requests = [request] ∧
      ((agent.pickUpItems limit none).run ports w).result =
        .ok (pairs.map fun entry => .ok (arrived entry)) := by
  obtain ⟨single, result⟩ := pickUpItems_answered uses answered
  have polled := Codec.polled_delivery (Codec.faithful_of_isPlain isPlain)
    (Codec.refusesBlank_of_isPlain isPlain) isDelivery carries packed
  rw [body, polled] at result
  refine ⟨single, result.trans ?_⟩
  rw [items, List.map_map]
  rfl

theorem Agent.answered_pickUpItems {ports : Ports σ} {w : World σ}
    (packs : ∀ m s, ∃ envelope, (ports.pack m s).1 = .ok envelope) (agent : Agent) (limit : UInt32)
    {relationship : Relationship} (held : w.held = some relationship)
    (reaches : ports.Reaches agent.routing relationship.mediator.did) {response : Response}
    (answers : ∀ request s, (ports.exchange request s).1 = .ok response) :
    ∃ request, ⟨.exchange request, .ok response⟩ ∈
      ((agent.pickUpItems limit none).run ports w).steps := by
  have all : (none : Option Nat) ≠ some 0 := nofun
  obtain ⟨request, single⟩ := posts_pickUpItems packs agent limit all held reaches
  have posted : request ∈ ((agent.pickUpItems limit none).run ports w).requests :=
    single ▸ List.mem_cons_self
  obtain ⟨before, answer, after, split⟩ := Run.exchange_of_mem_requests _ posted
  have member : ⟨.exchange request, answer⟩ ∈ ((agent.pickUpItems limit none).run ports w).steps :=
    split ▸ List.mem_append_right _ List.mem_cons_self
  obtain ⟨there, given⟩ := Program.steps_answered _ ports w _ member
  have same : answer = .ok response := given.trans (answers request there.outside)
  exact ⟨request, same ▸ member⟩

/-- A batch arrives complete, in order and whatever else is attached. What is found in a delivery is
the messages that its attachments hold, each with the id of its attachment: piece by piece where the
attachments are put together of pieces, and no matter which attachments without a message stand in
between. So a mailbox that answers with a packed delivery is asked once, and its items are all the
messages that were packed into the delivery. -/
theorem Agent.batch_arrives {codec : Codec} {ports : Ports σ} (uses : ports.Uses codec) :
    let found (d : Message) (w : World σ) :=
      ((MailboxAnswer.delivery d).messages.run ports w).result
    (∀ d w, found d w = .ok (d.attachments.filterMap (Attachment.opened? codec))) ∧
    (∀ (a : Attachment) entry,
      a.opened? codec = some entry ↔ entry.1 = a.id ∧ a.Holds codec entry.2) ∧
    (∀ whole first second, whole.attachments = first.attachments ++ second.attachments →
      ∀ w w₁ w₂, ∃ early late, found first w₁ = .ok early ∧ found second w₂ = .ok late ∧
        found whole w = .ok (early ++ late)) ∧
    (∀ d d' before junk junk' after, d.attachments = before ++ junk ++ after →
      d'.attachments = before ++ junk' ++ after →
      (∀ a ∈ junk ++ junk', ∀ m, ¬a.Holds codec m) → ∀ w w', found d w = found d' w') ∧
    (codec.IsPlain → ∀ d pairs envelope response, d.hasType .delivery = true →
      codec.Carries d.attachments pairs → codec.pack d = .ok envelope →
      response.body = Text.utf8 envelope → ∀ (agent : Agent) limit w,
        let run := (agent.pickUpItems limit none).run ports w
        let complete := ∃ request, run.requests = [request] ∧
          run.result = .ok (pairs.map fun entry => .ok (arrived entry))
        ((∃ request, ⟨.exchange request, .ok response⟩ ∈ run.steps) → complete) ∧
        ∀ relationship, w.held = some relationship →
          ports.Reaches agent.routing relationship.mediator.did →
          (∀ request s, (ports.exchange request s).1 = .ok response) → complete) := by
  intro found
  -- What is found is the same in all worlds, so that runs in different worlds can be compared.
  have opens (d : Message) (w : World σ) :
      found d w = .ok (d.attachments.filterMap (Attachment.opened? codec)) :=
    (MailboxAnswer.steady_messages uses (.delivery d) w).1
  refine ⟨opens, fun a entry => Attachment.opened?_eq_some, ?_, ?_, ?_⟩
  · intro whole first second split w w₁ w₂
    refine ⟨_, _, opens first w₁, opens second w₂, ?_⟩
    rw [opens, split, List.filterMap_append]
  · intro d d' before junk junk' after split split' nothing w w'
    have skips {attachments : List Attachment} (included : attachments ⊆ junk ++ junk') :
        attachments.filterMap (Attachment.opened? codec) = [] :=
      List.filterMap_eq_nil_iff.2 fun a member =>
        Attachment.opened?_eq_none.2 (nothing a (included member))
    rw [opens, opens, split, split']
    simp only [List.filterMap_append, skips (List.subset_append_left _ _),
      skips (List.subset_append_right _ _)]
  · intro isPlain d pairs envelope response isDelivery carries packed body agent limit w
      run complete
    have answered : (∃ request, ⟨.exchange request, .ok response⟩ ∈ run.steps) → complete := by
      rintro ⟨request, member⟩
      exact ⟨request, delivery_arrives uses isPlain isDelivery carries packed body member⟩
    refine ⟨answered, fun relationship held reaches answers => answered ?_⟩
    refine answered_pickUpItems (fun m s => ?_) agent limit held reaches answers
    obtain ⟨order, -, sealed⟩ := isPlain.pack m
    exact ⟨_, (uses.pack m s).trans sealed⟩

def mixedDelivery : Message where
  id := "2"
  type := MessageType.delivery.uri
  body := ""
  attachments :=
    let envelope := (Message.shape.write relayedMessage).canonical
    [{ id := "a", data := .json envelope }, { id := "b", data := .links [] "h" },
      { id := "c", data := .base64 "!" },
      { id := "a", data := .base64 (Text.Base64.text envelope 0) }]

def deliveringPorts : Ports SandboxState :=
  { relayedSandbox.ports "id" "now" with
    exchange := fun _ state =>
      (.ok ⟨500, Text.utf8 (Message.shape.write mixedDelivery).canonical⟩, state) }

def acceptedWorld : World SandboxState := ⟨{}, some ⟨⟨"1", "did:ex:m", "did:ex:a", "did:ex:r"⟩, 0⟩⟩

theorem deliveringPorts_uses : deliveringPorts.Uses .plain := ⟨fun _ _ => rfl, fun _ _ => rfl⟩

theorem deliveringPorts_reaches : deliveringPorts.Reaches {} "did:ex:m" :=
  ⟨_, "https://m", fun _ => rfl, firstEndpoint_iff.2 ⟨_, rfl, rfl⟩, fun agent =>
    absurd agent (by decide +kernel)⟩

theorem mixedDelivery_carries : Codec.plain.Carries mixedDelivery.attachments
    [("a", relayedMessage), ("a", relayedMessage)] := by
  refine .json rfl rfl (.junk ?_ (.junk ?_ (.base64 rfl (Nat.zero_le _) rfl .nil)))
  · exact Attachment.opened?_eq_none.1 rfl
  · exact Attachment.opened?_eq_none.1 rfl

theorem mixed_batch_arrives :
    let agent : Agent := { mediator := "did:ex:m" }
    let run := (agent.pickUpItems 10 none).run deliveringPorts acceptedWorld
    let m := { relayedMessage with direction := .received }
    deliveringPorts.Uses .plain ∧ deliveringPorts.Reaches agent.routing "did:ex:m" ∧
      ∃ request, run.requests = [request] ∧ run.result = .ok [.ok ("a", m), .ok ("a", m)] := by
  intro agent run m
  obtain ⟨-, -, -, -, complete⟩ := Agent.batch_arrives deliveringPorts_uses
  obtain ⟨request, single, result⟩ := (complete Codec.isPlain_plain mixedDelivery _ _ _ rfl
    mixedDelivery_carries rfl rfl agent 10 acceptedWorld).2 _ rfl deliveringPorts_reaches
    fun _ _ => rfl
  exact ⟨deliveringPorts_uses, deliveringPorts_reaches, request, single, result⟩

end DidMessaging
