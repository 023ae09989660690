import DidMessaging.Proofs.Agent.Asking
import DidMessaging.Proofs.Agent.Dispatch
import DidMessaging.Proofs.Message.Requests

namespace DidMessaging

open Program

/-- In an envelope for `did` the message is read: in the envelope itself or, if the document of
`did` refers to the agent `uri`, in the envelope of the forward that `uri` reads. -/
def Codec.Brings (codec : Codec) (sender did uri envelope : String) (m : Message) : Prop :=
  if isDid uri then
    ∃ outer id inner, codec.unwrap envelope = .ok outer ∧
      Forward.ofMessage outer = .ok ⟨id, did, inner, sender, uri⟩ ∧ codec.unwrap inner = .ok m
  else codec.unwrap envelope = .ok m

namespace Routing

variable {ports : Ports σ} {codec : Codec}

/-- A request that was prepared brings the message to its recipient, if whatever was packed for it
is unpacked again. -/
theorem Prepared.brings {routing : Routing} {m : Message} {sender recipient : String}
    {steps : List Step} {request : Request}
    (ways : Prepared routing m sender recipient steps (.ok request))
    (opens : ∀ packed envelope, ⟨.pack packed, .ok envelope⟩ ∈ steps →
      codec.unwrap envelope = .ok { packed with direction := .received }) :
    ∃ document uri envelope, ⟨.resolve recipient, .ok document⟩ ∈ steps ∧
      FirstEndpoint routing.serviceType document uri ∧ request.body = some envelope ∧
      codec.Brings sender recipient uri envelope { m with direction := .received } := by
  cases ways with
  | @ready document uri envelope first plain =>
      have brings : codec.Brings sender recipient uri envelope
          { m with direction := .received } := by
        rw [Codec.Brings, plain]
        exact opens m envelope (by simp)
      exact ⟨document, uri, envelope, by simp, first, rfl, brings⟩
  | @relayed document mediator envelope _ _ first agent onward =>
      cases onward with
      | ready next plain id attachmentId created packed =>
          have brings : codec.Brings sender recipient mediator packed
              { m with direction := .received } := by
            rw [Codec.Brings, agent]
            exact ⟨_, id, envelope, opens _ packed (by simp),
              Forward.ofMessage_message _ attachmentId created .received,
              opens m envelope (by simp)⟩
          exact ⟨document, mediator, packed, by simp, first, rfl, brings⟩

theorem posted_brings (uses : ports.Uses codec) (faithful : codec.Faithful) (routing : Routing)
    {m : Message} {sender recipient : String} (set : m.parties = .ok (sender, recipient))
    (made : m.direction ≠ .received) (w : World σ) :
    let run := (routing.send m).run ports w
    ∀ request ∈ run.requests, run.requests = [request] ∧ ∃ document uri envelope,
      ⟨.resolve recipient, .ok document⟩ ∈ run.steps ∧
      FirstEndpoint routing.serviceType document uri ∧ request.body = some envelope ∧
      codec.Brings sender recipient uri envelope { m with direction := .received } := by
  intro run request posted
  obtain ⟨steps, prepared, ways, concluded⟩ :
      ∃ steps prepared, Prepared routing m sender recipient steps prepared ∧
        Concluded steps prepared run.asked run.result := proceeds_send set made w
  obtain ⟨later, asked, -, exchanged⟩ := concluded.posts
  have included : steps ⊆ run.steps := by
    intro step member
    have among : step ∈ run.asked := asked ▸ List.mem_append_left later member
    exact (List.mem_filter.1 among).1
  have requests : run.requests = prepared.toOption.toList := by
    rw [run.requests_eq_map, run.exchanges_eq_asked, asked, Run.exchangedIn,
      List.filterMap_append, List.map_append]
    exact (congrArg₂ _ (congrArg (List.map Prod.fst) ways.exchanges) exchanged).trans
      (List.nil_append _)
  -- What was packed is what the codec makes of it, and it is unpacked again.
  have opens (packed : Message) (envelope : String)
      (member : ⟨.pack packed, .ok envelope⟩ ∈ steps) :
      codec.unwrap envelope = .ok { packed with direction := .received } := by
    obtain ⟨there, answered⟩ := steps_answered _ ports w _ (included member)
    have sealed : codec.pack packed = .ok envelope :=
      (uses.pack packed there.outside).symm.trans answered.symm
    exact Codec.unwrap_eq_ok.2 ⟨packed, faithful packed envelope sealed, rfl⟩
  rw [requests] at posted ⊢
  cases prepared with
  | error e => cases posted
  | ok prepared =>
      obtain rfl : request = prepared := List.mem_singleton.1 posted
      obtain ⟨document, uri, envelope, resolved, first, carried, brings⟩ := ways.brings opens
      exact ⟨rfl, document, uri, envelope, included resolved, first, carried, brings⟩

end Routing

/-- The run makes at most one request. In that the mediator reads a message of the type from the
host, and of its body `content` holds. -/
def Mediator.IsTold (mediator : Mediator) (codec : Codec) (routing : Routing) (type : MessageType)
    (content : String → Prop) (run : Run σ α) : Prop :=
  ∀ request ∈ run.requests, run.requests = [request] ∧ ∃ document uri envelope m,
    ⟨.resolve mediator.did, .ok document⟩ ∈ run.steps ∧
    FirstEndpoint routing.serviceType document uri ∧ request.body = some envelope ∧
    codec.Brings mediator.host mediator.did uri envelope m ∧ m.hasType type = true ∧
    m.sender = some mediator.host ∧ m.recipient = some mediator.did ∧ content m.body

theorem Mediator.isTold_within {mediator : Mediator} {codec : Codec} {routing : Routing}
    {type : MessageType} {content : String → Prop} {part : Run σ α} {run : Run σ β}
    (within : part.Within run) (told : mediator.IsTold codec routing type content part) :
    mediator.IsTold codec routing type content run := by
  intro request posted
  rw [within.requests] at posted ⊢
  obtain ⟨single, document, uri, envelope, m, resolved, rest⟩ := told request posted
  exact ⟨single, document, uri, envelope, m, within.steps resolved, rest⟩

namespace Agent

variable {ports : Ports σ} {w : World σ} {codec : Codec} {relationship : Relationship}

theorem isTold_asking (uses : ports.Uses codec) (faithful : codec.Faithful) (agent : Agent)
    (request : HostRequest) (held : w.held = some relationship)
    {rest : Relationship → Message → Option (List UInt8) → Program α}
    (here : ∀ relationship m answer, (rest relationship m answer).Local) {content : String → Prop}
    (body : ∀ stamp, content
      (request.message relationship.mediator.host relationship.mediator.did stamp).body) :
    relationship.mediator.IsTold codec agent.routing request.type content
      ((agent.asking request rest).run ports w) := by
  obtain ⟨stamp, there, within⟩ := agent.within_asking ports request held here
  intro posted member
  rw [within.requests] at member ⊢
  let m := request.message relationship.mediator.host relationship.mediator.did stamp
  have typed : m.hasType request.type = true := decide_eq_true rfl
  obtain ⟨single, document, uri, envelope, resolved, first, carried, brings⟩ :=
    Routing.posted_brings uses faithful agent.routing (m := m) rfl nofun there posted member
  exact ⟨single, document, uri, envelope, _, within.steps resolved, first, carried, brings, typed,
    rfl, rfl, body stamp⟩

/-- The mediator reads what the agent was told to ask. With the mediator that is held, whatever else
has happened before, a registration, an acknowledgement and a collection make at most one request,
and if the mediator can be reached they do make it. In it the mediator reads a message of its type
from the host, directly or in a forward. Its body is a text of the DIDs to add, of the ids or of the
limit and the host: all of them, in order and as often as they were given, and nothing else. -/
theorem mediator_reads_as_asked (uses : ports.Uses codec) (isPlain : codec.IsPlain) (agent : Agent)
    (held : w.held = some relationship) :
    let mediator := relationship.mediator
    (∀ dids : List String, mediator.IsTold codec agent.routing .keyListUpdate
      (fun body =>
        KeyListUpdate.shape.parse body = .ok ⟨dids.map fun did => ⟨did, "add"⟩⟩ ∧
        (Json.object [("updates", .list (dids.map fun did =>
          .object [("recipient_did", .text did), ("action", .text "add")]))]).IsText body)
      ((agent.register dids).run ports w)) ∧
    (∀ ids : List String, mediator.IsTold codec agent.routing .messagesReceived
      (Json.object [("message_id_list", .list (ids.map .text))]).IsText
      ((agent.acknowledge ids).run ports w)) ∧
    (∀ (limit : UInt32) (taken : Option Nat), mediator.IsTold codec agent.routing .deliveryRequest
      (Json.object [("limit", .number (.natural limit.toNat)),
        ("recipient_did", .text mediator.host)]).IsText
      ((agent.pickUpItems limit taken).run ports w)) ∧
    (ports.Reaches agent.routing mediator.did →
      (∀ dids, ∃ posted, ((agent.register dids).run ports w).requests = [posted]) ∧
      (∀ ids, ∃ posted, ((agent.acknowledge ids).run ports w).requests = [posted]) ∧
      ∀ limit taken, taken ≠ some 0 →
        ∃ posted, ((agent.pickUpItems limit taken).run ports w).requests = [posted]) := by
  intro mediator
  have faithful : codec.Faithful := Codec.faithful_of_isPlain isPlain
  have packs (m : Message) (s : σ) : ∃ envelope, (ports.pack m s).1 = .ok envelope := by
    obtain ⟨order, -, packed⟩ := isPlain.pack m
    exact ⟨_, (uses.pack m s).trans packed⟩
  have idle (_ : Relationship) (_ : Message) (_ : Option (List UInt8)) :
      (return () : Program Unit).Local := trivial
  refine ⟨fun dids => ?_, fun ids => ?_, fun limit taken => ?_, fun reaches =>
    ⟨fun dids => ?_, fun ids => ?_, fun limit taken taking => ?_⟩⟩
  -- A registration holds the lock meanwhile, which requests nothing.
  · rw [agent.register_eq_asking]
    apply Mediator.isTold_within (within_exclusively (.of_steps rfl))
    apply agent.isTold_asking uses faithful (.registration dids) held (counting_local dids)
    intro stamp
    constructor
    · exact HostRequest.parse_registration dids mediator.host mediator.did stamp
    · rw [← HostRequest.body_registration dids mediator.host]
      exact (HostRequest.registration dids).isText_message mediator.host mediator.did stamp
  · rw [agent.acknowledge_eq_asking]
    apply agent.isTold_asking uses faithful (.received ids) held idle
    exact (HostRequest.received ids).isText_message mediator.host mediator.did
  · by_cases none : taken = some 0
    · rw [pickUpItems, if_pos none]
      intro request posted
      cases posted
    · apply Mediator.isTold_within (.of_steps (agent.steps_pickUpItems limit none))
      rw [agent.pickUp_eq_asking]
      apply agent.isTold_asking uses faithful (.delivery limit) held collecting_local
      exact (HostRequest.delivery limit).isText_message mediator.host mediator.did
  · rw [agent.register_eq_asking, Run.requests, picks_exclusively rfl rfl]
    exact agent.posts_asking packs (.registration dids) held (counting_local dids) reaches
  · rw [agent.acknowledge_eq_asking]
    exact agent.posts_asking packs (.received ids) held idle reaches
  · exact agent.posts_pickUpItems packs limit taking held reaches

end Agent

theorem relayed_mediator_reads_as_asked :
    let ports := relayedSandbox.ports "id" "now"
    let relationship : Relationship := ⟨⟨"1", "did:ex:b", "did:ex:a", "did:ex:r"⟩, 3⟩
    let dids := ["\"\\\x00\u00e9", "", "\"\\\x00\u00e9"]
    let run := (Agent.register ⟨{}, "did:ex:b"⟩ dids).run ports ⟨{}, some relationship⟩
    ∃ request envelope outer id inner m, run.requests = [request] ∧ request.body = some envelope ∧
      Codec.plain.unwrap envelope = .ok outer ∧
      Forward.ofMessage outer = .ok ⟨id, "did:ex:b", inner, "did:ex:a", "did:ex:m"⟩ ∧
      Codec.plain.unwrap inner = .ok m ∧
      KeyListUpdate.shape.parse m.body = .ok ⟨dids.map fun did => ⟨did, "add"⟩⟩ := by
  intro ports relationship dids run
  have first : FirstEndpoint "DIDCommMessaging" relayedSandbox.documents[0] "did:ex:m" :=
    firstEndpoint_iff.2 ⟨_, rfl, rfl⟩
  have next : FirstEndpoint "DIDCommMessaging" relayedSandbox.documents[1] "https://m" :=
    firstEndpoint_iff.2 ⟨_, rfl, rfl⟩
  have reaches : ports.Reaches {} "did:ex:b" :=
    ⟨_, "did:ex:m", fun _ => rfl, first, fun _ => ⟨_, _, fun _ => rfl, next, by decide +kernel⟩⟩
  obtain ⟨registers, -, -, posts⟩ :=
    Agent.mediator_reads_as_asked (relayedSandbox.uses_codec "id" "now") Codec.isPlain_plain
      ⟨{}, "did:ex:b"⟩ (w := ⟨{}, some relationship⟩) rfl
  obtain ⟨request, single⟩ := (posts reaches).1 dids
  have posted : request ∈ run.requests := single ▸ List.mem_cons_self
  obtain ⟨-, document, uri, envelope, m, resolved, named, body, brings, -, -, -, content, -⟩ :=
    registers dids request posted
  have known : document = relayedSandbox.documents[0] := by
    obtain ⟨there, answered⟩ := steps_answered _ ports _ _ resolved
    exact Except.ok.inj answered
  obtain rfl : uri = "did:ex:m" := firstEndpoint_unique named (known ▸ first)
  have agent : isDid "did:ex:m" = true := by decide +kernel
  rw [Codec.Brings, if_pos agent] at brings
  obtain ⟨outer, id, inner, opened, forward, read⟩ := brings
  exact ⟨request, envelope, outer, id, inner, m, single, body, opened, forward, read, content⟩

end DidMessaging
