import DidMessaging.Proofs.Agent.Delivery
import DidMessaging.Proofs.Message.Shapes

namespace DidMessaging

namespace Ports

def Faithful (ports : Ports σ) : Prop :=
  ∀ m envelope s later, (ports.pack m s).1 = .ok envelope → (ports.unpack envelope later).1 = .ok m

/-- If the DID can be resolved, this is its document. -/
def Knows (ports : Ports σ) (did : String) (document : Document) : Prop :=
  ∀ s found, (ports.resolve did s).1 = .ok found → found = document

def answering (ports : Ports σ) (did : String) (document : Document) : Ports σ :=
  { ports with
    resolve := fun asked s =>
      if asked = did then (.ok document, (ports.resolve asked s).2) else ports.resolve asked s }

end Ports

namespace Program

variable {ports : Ports σ} {w : World σ} {request : Request}

theorem requests_perform_bind {effect : Effect} (here : effect.isLocal = true)
    (f : effect.Answer → Program α) :
    ((perform effect >>= f).run ports w).requests =
      ((f (ports.answer w effect).1).run ports (ports.answer w effect).2).requests := by
  cases effect with
  | exchange => cases here
  | _ => rfl

theorem requests_resolve_bind {did : String} {document : Document}
    (found : (ports.answer w (.resolve did)).1 = .ok document) (f : Document → Program α) :
    ((resolve did >>= f).run ports w).requests =
      ((f document).run ports (ports.answer w (.resolve did)).2).requests := by
  change ((core (ports.answer w (.resolve did)).1 >>= f).run ports _).requests = _
  rw [found]
  rfl

theorem resolved_of_posted {did : String} {f : Document → Program α}
    (posted : request ∈ ((resolve did >>= f).run ports w).requests) :
    ∃ document, (ports.answer w (.resolve did)).1 = .ok document := by
  change request ∈ ((core (ports.answer w (.resolve did)).1 >>= f).run ports _).requests at posted
  cases found : (ports.answer w (.resolve did)).1 with
  | ok document => exact ⟨document, rfl⟩
  | error e => rw [found] at posted; cases posted

theorem requests_pack_bind {m : Message} {parties : String × String} (set : m.parties = .ok parties)
    {envelope : String} (packed : (ports.answer w (.pack m)).1 = .ok envelope)
    (f : String → Program α) :
    ((pack m >>= f).run ports w).requests =
      ((f envelope).run ports (ports.answer w (.pack m)).2).requests := by
  rw [pack, set]
  change ((core (ports.answer w (.pack m)).1 >>= f).run ports _).requests = _
  rw [packed]
  rfl

theorem packed_of_posted {m : Message} {parties : String × String} (set : m.parties = .ok parties)
    {f : String → Program α} (posted : request ∈ ((pack m >>= f).run ports w).requests) :
    ∃ envelope, (ports.answer w (.pack m)).1 = .ok envelope := by
  rw [pack, set] at posted
  change request ∈ ((core (ports.answer w (.pack m)).1 >>= f).run ports _).requests at posted
  cases packed : (ports.answer w (.pack m)).1 with
  | ok envelope => exact ⟨envelope, rfl⟩
  | error e => rw [packed] at posted; cases posted

theorem requests_of_local {p : Program α} (here : p.Local) : (p.run ports w).requests = [] := by
  refine picks_nothing here (fun effect answer allowed => ?_) ports w
  cases effect with
  | exchange => cases allowed
  | _ => rfl

end Program

namespace Routing

open Program

variable {routing : Routing} {ports : Ports σ} {w : World σ} {request : Request}

theorem endpoint_of_first {did uri : String} {document : Document}
    (first : FirstEndpoint routing.serviceType document uri) :
    routing.endpoint did document = .done uri := by
  obtain ⟨service, found, rfl⟩ := firstEndpoint_iff.1 first
  rw [endpoint, found]

theorem requests_post (uri envelope : String) :
    ((routing.post uri envelope).run ports w).requests = [routing.request uri envelope] := by
  obtain ⟨rest, split, asks⟩ := routing.post_eq_exchange uri envelope
  rw [split]
  change routing.request uri envelope :: ((rest _).run ports _).requests = _
  rw [requests_of_local (asks (fun _ => rfl) _)]

theorem requests_mediatorAddress_bind {mediator address : String} {relay : Document}
    (found : (ports.answer w (.resolve mediator)).1 = .ok relay)
    (first : FirstEndpoint routing.serviceType relay address) (plain : isDid address = false)
    (f : String → Program α) :
    ((routing.mediatorAddress mediator >>= f).run ports w).requests =
      ((f address).run ports (ports.answer w (.resolve mediator)).2).requests := by
  rw [mediatorAddress, LawfulMonad.bind_assoc, requests_resolve_bind found,
    endpoint_of_first first]
  change ((ite (isDid address) _ _ >>= f : Program α).run ports _).requests = _
  rw [if_neg (by simp [plain])]
  rfl

theorem posted_sendForward {type sender recipient mediator envelope address : String}
    {relay : Document} (known : ports.Knows mediator relay)
    (first : FirstEndpoint routing.serviceType relay address) (plain : isDid address = false)
    (posted : request ∈
      ((routing.sendForward type sender recipient mediator envelope).run ports w).requests) :
    ∃ id attachmentId created packed s,
      (ports.pack (Forward.message ⟨id, recipient, envelope, sender, mediator⟩ attachmentId created)
        s).1 = .ok packed ∧
      ((routing.sendForward type sender recipient mediator envelope).run ports w).requests =
        [routing.request address packed] := by
  rw [sendForward] at posted ⊢
  have found : (ports.answer w (.resolve mediator)).1 = .ok relay := by
    rw [mediatorAddress, LawfulMonad.bind_assoc] at posted
    obtain ⟨document, found⟩ := resolved_of_posted posted
    exact known w.outside document found ▸ found
  rw [requests_mediatorAddress_bind found first plain] at posted ⊢
  rw [requests_perform_bind rfl, log, requests_perform_bind rfl, requests_perform_bind rfl,
    requests_perform_bind rfl] at posted ⊢
  obtain ⟨packed, ok⟩ := packed_of_posted rfl posted
  rw [requests_pack_bind rfl ok, requests_post]
  exact ⟨_, _, _, packed, _, ok, rfl⟩

theorem requests_send {m : Message} {sender recipient envelope uri : String} {document : Document}
    (set : m.parties = .ok (sender, recipient)) (made : m.direction ≠ .received)
    (found : (ports.answer w (.resolve recipient)).1 = .ok document)
    (packed : (ports.answer (ports.answer w (.resolve recipient)).2 (.pack m)).1 = .ok envelope)
    (first : FirstEndpoint routing.serviceType document uri) :
    ((routing.send m).run ports w).requests =
      if isDid uri then
        ((routing.sendForward m.type sender recipient uri envelope).run ports
          (ports.answer (ports.answer w (.resolve recipient)).2 (.pack m)).2).requests
      else [routing.request uri envelope] := by
  rw [send, set]
  change ((ite (m.direction = .received) _ _ : Program _).run ports w).requests = _
  rw [if_neg made, requests_resolve_bind found, requests_pack_bind set packed,
    endpoint_of_first first]
  change ((ite (isDid uri) _ _ : Program _).run ports _).requests = _
  split
  · rfl
  · rw [sendDirect, log, requests_perform_bind rfl, requests_post]

theorem posted_send {m : Message} {sender recipient : String}
    (set : m.parties = .ok (sender, recipient))
    (posted : request ∈ ((routing.send m).run ports w).requests) :
    m.direction ≠ .received ∧ ∃ document envelope,
      (ports.answer w (.resolve recipient)).1 = .ok document ∧
      (ports.answer (ports.answer w (.resolve recipient)).2 (.pack m)).1 = .ok envelope := by
  rw [send, set] at posted
  change request ∈ ((ite (m.direction = .received) _ _ : Program _).run ports w).requests at posted
  by_cases received : m.direction = .received
  · rw [if_pos received] at posted
    cases posted
  · rw [if_neg received] at posted
    obtain ⟨document, found⟩ := resolved_of_posted posted
    rw [requests_resolve_bind found] at posted
    obtain ⟨envelope, packed⟩ := packed_of_posted set posted
    exact ⟨received, document, envelope, found, packed⟩

theorem unpack_packed (faithful : ports.Faithful) {m : Message} {envelope : String} {s : σ}
    (packed : (ports.pack m s).1 = .ok envelope) (later : World σ) :
    ((unpack envelope).run ports later).result = .ok { m with direction := .received } := by
  change ((core (ports.unpack envelope later.outside).1 >>= _ : Program _).run ports _).result = _
  rw [faithful m envelope s later.outside packed]
  rfl

/-- Delivery through a mediator carries what direct delivery would have carried. -/
theorem forwarded_as_direct (faithful : ports.Faithful) {m : Message} {sender recipient : String}
    (fromSet : m.sender = some sender) (toSet : m.recipient = some recipient)
    {document relay : Document} {mediator address : String}
    (known : ports.Knows recipient document) (knownRelay : ports.Knows mediator relay)
    (mediated : FirstEndpoint routing.serviceType document mediator)
    (agent : isDid mediator = true)
    (first : FirstEndpoint routing.serviceType relay address) (plain : isDid address = false)
    (posted : request ∈ ((routing.send m).run ports w).requests) :
    ((routing.send m).run ports w).requests = [request] ∧ request.url = address ∧
    ∃ body id envelope, request.body = some body ∧
      (∀ later, ∃ forwarded, ((unpack body).run ports later).result = .ok forwarded ∧
        Forward.ofMessage forwarded = .ok ⟨id, recipient, envelope, sender, mediator⟩) ∧
      (∀ direct uri, FirstEndpoint routing.serviceType direct uri → isDid uri = false →
        ((routing.send m).run (ports.answering recipient direct) w).requests =
          [routing.request uri envelope]) ∧
      ∀ later, ((unpack envelope).run ports later).result =
        .ok { m with direction := .received } := by
  have set : m.parties = .ok (sender, recipient) := Message.parties_eq_ok.2 ⟨fromSet, toSet⟩
  obtain ⟨made, resolved, envelope, found, packed⟩ := posted_send set posted
  obtain rfl := known w.outside resolved found
  have requests := requests_send set made found packed mediated
  rw [if_pos agent] at requests
  rw [requests] at posted ⊢
  obtain ⟨id, attachmentId, created, body, s, sealed, single⟩ :=
    posted_sendForward knownRelay first plain posted
  rw [single] at posted ⊢
  obtain rfl := List.mem_singleton.1 posted
  refine ⟨rfl, rfl, body, id, envelope, rfl, fun later => ?_, fun direct uri reached away => ?_, ?_⟩
  · exact ⟨_, unpack_packed faithful sealed later, Forward.ofMessage_message _ _ _ _⟩
  · have answer : (ports.answering recipient direct).answer w (.resolve recipient) =
        (.ok direct, (ports.answer w (.resolve recipient)).2) := by
      simp [Ports.answering, Ports.answer, World.answered]
    rw [requests_send set made (by rw [answer]) (by rw [answer]; exact packed) reached]
    rw [if_neg (by simp [away])]
  · exact unpack_packed faithful packed

end Routing

theorem Sandbox.faithful_of_plain {sandbox : Sandbox} (plain : sandbox.codec = .plain)
    (id time : String) : (sandbox.ports id time).Faithful := by
  intro m envelope s later packed
  change sandbox.codec.pack m = .ok envelope at packed
  change sandbox.codec.unpack envelope = .ok m
  rw [plain] at packed ⊢
  cases packed
  exact Codec.unpack_plain m

theorem relayed_forwarded_as_direct :
    let ports := relayedSandbox.ports "id" "now"
    let run := (Routing.send {} relayedMessage).run ports ⟨{}, none⟩
    ∃ request body id envelope, run.requests = [request] ∧ request.url = "https://m" ∧
      request.body = some body ∧
      (∃ forwarded, ((Program.unpack body).run ports run.world).result = .ok forwarded ∧
        Forward.ofMessage forwarded =
          .ok ⟨id, "did:ex:b", envelope, "did:ex:a", "did:ex:m"⟩) ∧
      ((Program.unpack envelope).run ports run.world).result =
        .ok { relayedMessage with direction := .received } := by
  intro ports run
  have knows (did : String) (document : Document)
      (resolved : (relayedSandbox.resolve did).toOption = some document) :
      ports.Knows did document := by
    intro s found answer
    change relayedSandbox.resolve did = .ok found at answer
    rw [answer] at resolved
    exact Option.some.inj resolved
  have urls : run.requests.map Request.url = ["https://m"] := by decide +kernel
  obtain ⟨request, posted, -⟩ : ∃ request ∈ run.requests, request.url = "https://m" :=
    List.mem_map.1 (urls ▸ List.mem_cons_self)
  obtain ⟨single, url, body, id, envelope, carried, forward, -, same⟩ :=
    @Routing.forwarded_as_direct _ {} ports ⟨{}, none⟩ request
      (Sandbox.faithful_of_plain rfl "id" "now") relayedMessage _ _ rfl rfl _ _ _ _
      (knows "did:ex:b" _ rfl) (knows "did:ex:m" _ rfl) (firstEndpoint_iff.2 ⟨_, rfl, rfl⟩)
      (by decide +kernel) (firstEndpoint_iff.2 ⟨_, rfl, rfl⟩) (by decide +kernel) posted
  exact ⟨request, body, id, envelope, single, url, carried, forward _, same _⟩

end DidMessaging
