import DidMessaging.Agent.Routing
import DidMessaging.Proofs.Agent.Conduct

/-! Sending in two parts: a message is prepared, and what comes of that is posted. -/

namespace DidMessaging

def FirstEndpoint (type : String) (document : Document) (uri : String) : Prop :=
  ∃ earlier service later, document.services = earlier ++ service :: later ∧
    type ∈ service.types ∧ (∀ other ∈ earlier, type ∉ other.types) ∧ service.endpoint.uri = uri

theorem firstEndpoint_iff {type : String} {document : Document} {uri : String} :
    FirstEndpoint type document uri ↔
      ∃ service, document.service? type = some service ∧ service.endpoint.uri = uri := by
  constructor
  · rintro ⟨earlier, service, later, split, present, absent, same⟩
    refine ⟨service, List.find?_eq_some_iff_append.2 ⟨?_, earlier, later, split, ?_⟩, same⟩
    · simpa [Service.hasType] using present
    · intro other member
      simpa [Service.hasType] using absent other member
  · rintro ⟨service, found, same⟩
    obtain ⟨present, earlier, later, split, absent⟩ := List.find?_eq_some_iff_append.1 found
    refine ⟨earlier, service, later, split, by simpa [Service.hasType] using present, ?_, same⟩
    intro other member
    simpa [Service.hasType] using absent other member

theorem firstEndpoint_unique {type : String} {document : Document} {uri other : String}
    (first : FirstEndpoint type document uri) (again : FirstEndpoint type document other) :
    uri = other := by
  obtain ⟨service, found, rfl⟩ := firstEndpoint_iff.1 first
  obtain ⟨_, same, rfl⟩ := firstEndpoint_iff.1 again
  cases found.symm.trans same
  rfl

/-- What a request is after the steps `past`: a message with both parties was packed, the document
of its recipient was resolved, and the envelope goes to the address that the document gives. -/
def Addressed (routing : Routing) (past : List Step) (request : Request) : Prop :=
  ∃ (m : Message) (sender recipient envelope uri : String) (document : Document),
    m.sender = some sender ∧ m.recipient = some recipient ∧
    ⟨.pack m, .ok envelope⟩ ∈ past ∧ ⟨.resolve recipient, .ok document⟩ ∈ past ∧
    FirstEndpoint routing.serviceType document uri ∧ isDid uri = false ∧
    request = ⟨.post, uri, [], [⟨"Content-Type", routing.contentType⟩], some envelope⟩

theorem Message.parties_eq_ok {m : Message} {sender recipient : String} :
    m.parties = .ok (sender, recipient) ↔
      m.sender = some sender ∧ m.recipient = some recipient := by
  unfold parties
  cases m.recipient <;> cases m.sender <;> simp

def Effect.isLocal : Effect → Bool
  | .exchange _ => false
  | _ => true

def Effect.Prepares (m : Message) : Effect → Prop
  | .resolve _ | .freshId | .now | .log _ => True
  | .pack packed => packed = m ∨ packed.hasType .forward = true
  | _ => False

def Effect.Sends (m : Message) : Effect → Prop
  | .exchange _ => True
  | effect => effect.Prepares m

theorem Effect.local_of_prepares {m : Message} {effect : Effect} (prepares : effect.Prepares m) :
    effect.isLocal = true := by
  cases effect <;> first | rfl | cases prepares

theorem Effect.sends_of_prepares {m : Message} {effect : Effect} (prepares : effect.Prepares m) :
    effect.Sends m := by
  cases effect <;> first | exact prepares | trivial

namespace Program

abbrev Local (p : Program α) : Prop := p.Asks fun effect => effect.isLocal = true

theorem pack_asks {allowed : Effect → Prop} {m : Message} (present : allowed (.pack m)) :
    (pack m).Asks allowed :=
  asks_bind (asks_core _) fun _ => asks_bind (asks_perform present) fun _ => asks_core _

section Keeps

variable {permits : List Step → Effect → Prop} {past : List Step}

theorem keeps_resolve {did : String} (permitted : permits past (.resolve did)) :
    (resolve did).Keeps permits
      (fun later document => later = past ++ [⟨.resolve did, .ok document⟩]) past := by
  refine keeps_perform_bind permitted fun outcome => ?_
  exact keeps_core fun document same => by rw [same]

theorem keeps_pack {m : Message} (permitted : permits past (.pack m)) :
    (pack m).Keeps permits
      (fun later envelope => later = past ++ [⟨.pack m, .ok envelope⟩]) past := by
  refine keeps_bind (Q := fun later _ => later = past) (keeps_core fun _ _ => rfl) ?_
  rintro later _ rfl
  refine keeps_perform_bind permitted fun outcome => ?_
  exact keeps_core fun envelope same => by rw [same]

theorem keeps_unpack {envelope : String} (past : List Step)
    (permitted : permits past (.unpack envelope)) :
    (unpack envelope).Keeps permits (fun _ m => m.direction = .received) past := by
  refine keeps_perform_bind permitted fun outcome => ?_
  exact keeps_bind (Q := fun _ _ => True) (keeps_core fun _ _ => trivial) fun _ _ _ =>
    keeps_done rfl

end Keeps

end Program

open Program

namespace Routing

theorem endpoint_asks {allowed : Effect → Prop} (routing : Routing) (did : String)
    (document : Document) : (routing.endpoint did document).Asks allowed := by
  unfold endpoint
  split <;> trivial

def wrapForward (routing : Routing) (type sender recipient mediator envelope : String) :
    Program (String × String) := do
  let address ← routing.mediatorAddress mediator
  let forward : Forward := ⟨← perform .freshId, recipient, envelope, sender, mediator⟩
  log (.sendingForward sender mediator type)
  let attachmentId ← perform .freshId
  let created ← perform .now
  let packed ← pack (forward.message attachmentId created)
  return (address, packed)

/-- All that sending does before it posts: it finds an address, and an envelope to post there. -/
def prepare (routing : Routing) (m : Message) : Program (String × String) := do
  let (sender, recipient) ← core m.parties
  if m.direction = .received then
    .fail (.alreadyReceived m.id)
  else
    let document ← resolve recipient
    let envelope ← pack m
    let uri ← routing.endpoint recipient document
    if isDid uri then routing.wrapForward m.type sender recipient uri envelope
    else do
      log (.sending sender recipient m.type)
      return (uri, envelope)

theorem sendForward_eq_wrapForward (routing : Routing)
    (type sender recipient mediator envelope : String) :
    routing.sendForward type sender recipient mediator envelope =
      routing.wrapForward type sender recipient mediator envelope >>= fun prepared =>
        routing.post prepared.1 prepared.2 := by
  simp only [sendForward, wrapForward, LawfulMonad.bind_assoc, LawfulMonad.pure_bind]

theorem send_eq_prepare (routing : Routing) (m : Message) :
    routing.send m = routing.prepare m >>= fun prepared =>
      routing.post prepared.1 prepared.2 := by
  simp only [send, prepare, LawfulMonad.bind_assoc]
  refine congrArg _ (funext fun (sender, recipient) => ?_)
  by_cases received : m.direction = .received
  · simp only [received, ↓reduceIte]
    rfl
  · simp only [received, ↓reduceIte, LawfulMonad.bind_assoc, sendForward_eq_wrapForward]
    refine congrArg _ (funext fun document => congrArg _ (funext fun envelope => ?_))
    refine congrArg _ (funext fun uri => ?_)
    split <;> rfl

theorem post_eq_exchange (routing : Routing) (uri envelope : String) :
    ∃ rest : Except Error Response → Program (Option (List UInt8)),
      routing.post uri envelope =
        perform (.exchange (routing.request uri envelope)) >>= rest ∧
      ∀ {allowed : Effect → Prop}, (∀ event, allowed (.log event)) →
        ∀ outcome, (rest outcome).Asks allowed := by
  refine ⟨_, rfl, fun logs outcome => asks_bind (asks_core outcome) fun response => ?_⟩
  by_cases refused : response.isError = true
  · simp only [refused, ↓reduceIte]
    exact asks_bind (asks_perform (logs _)) fun _ => trivial
  · simp only [refused, Bool.false_eq_true, ↓reduceIte]
    trivial

theorem post_asks {allowed : Effect → Prop} (routing : Routing) {uri envelope : String}
    (posts : allowed (.exchange (routing.request uri envelope)))
    (logs : ∀ event, allowed (.log event)) : (routing.post uri envelope).Asks allowed := by
  obtain ⟨rest, split, asks⟩ := routing.post_eq_exchange uri envelope
  rw [split]
  exact asks_bind (asks_perform posts) (asks logs)

section Keeps

variable {routing : Routing} {permits : List Step → Effect → Prop} {past : List Step}

theorem keeps_endpoint (did : String) (document : Document) :
    (routing.endpoint did document).Keeps permits
      (fun later uri => later = past ∧ FirstEndpoint routing.serviceType document uri) past := by
  unfold endpoint
  cases found : document.service? routing.serviceType with
  | none => exact keeps_fail _ _
  | some service => exact keeps_done ⟨rfl, firstEndpoint_iff.2 ⟨service, found, rfl⟩⟩

theorem keeps_mediatorAddress {mediator : String} (permitted : permits past (.resolve mediator)) :
    (routing.mediatorAddress mediator).Keeps permits
      (fun later uri => isDid uri = false ∧ ∃ document,
        later = past ++ [⟨.resolve mediator, .ok document⟩] ∧
        FirstEndpoint routing.serviceType document uri) past := by
  refine keeps_bind (keeps_resolve permitted) ?_
  rintro _ document rfl
  refine keeps_bind (keeps_endpoint mediator document) ?_
  rintro _ uri ⟨rfl, first⟩
  by_cases chained : isDid uri = true
  · simp only [chained, ↓reduceIte]
    exact keeps_fail _ _
  · simp only [chained, Bool.false_eq_true, ↓reduceIte]
    exact keeps_done ⟨by simpa using chained, document, rfl, first⟩

variable {m : Message}

theorem keeps_wrapForward (free : ∀ past effect, effect.Prepares m → permits past effect)
    (type sender recipient mediator envelope : String) :
    (routing.wrapForward type sender recipient mediator envelope).Keeps permits
      (fun later prepared => Addressed routing later (routing.request prepared.1 prepared.2))
      past := by
  refine keeps_bind (keeps_mediatorAddress (free _ _ trivial)) ?_
  rintro _ address ⟨plain, document, rfl, first⟩
  refine keeps_perform_bind (free _ _ trivial) fun id => ?_
  refine keeps_perform_bind (free _ _ trivial) fun _ => ?_
  refine keeps_perform_bind (free _ _ trivial) fun attachmentId => ?_
  refine keeps_perform_bind (free _ _ trivial) fun created => ?_
  let forward : Forward := ⟨id, recipient, envelope, sender, mediator⟩
  have isForward : (forward.message attachmentId created).hasType .forward = true := by
    simp [Message.hasType, Forward.message, Message.make]
  refine keeps_bind (keeps_pack (free _ _ (.inr isForward))) ?_
  rintro _ packed rfl
  exact keeps_done ⟨forward.message attachmentId created, sender, mediator, packed, address,
    document, rfl, rfl, by simp [forward], by simp, first, plain, rfl⟩

/-- Whatever is prepared is addressed, on either way. -/
theorem keeps_prepare (past : List Step)
    (free : ∀ past effect, effect.Prepares m → permits past effect) :
    (routing.prepare m).Keeps permits
      (fun later prepared => Addressed routing later (routing.request prepared.1 prepared.2))
      past := by
  refine keeps_bind (Q := fun _ parties => m.parties = .ok parties)
    (keeps_core fun _ same => same) ?_
  rintro later ⟨sender, recipient⟩ parties
  obtain ⟨fromSet, toSet⟩ := Message.parties_eq_ok.1 parties
  by_cases received : m.direction = .received
  · simp only [received, ↓reduceIte]
    exact keeps_fail _ _
  simp only [received, ↓reduceIte]
  refine keeps_bind (keeps_resolve (free _ _ trivial)) ?_
  rintro _ document rfl
  refine keeps_bind (keeps_pack (free _ _ (.inl rfl))) ?_
  rintro _ envelope rfl
  refine keeps_bind (keeps_endpoint recipient document) ?_
  rintro _ uri ⟨rfl, first⟩
  by_cases mediated : isDid uri = true
  · simp only [mediated, ↓reduceIte]
    exact keeps_wrapForward free m.type sender recipient uri envelope
  simp only [mediated, Bool.false_eq_true, ↓reduceIte]
  refine keeps_perform_bind (free _ _ trivial) fun _ => ?_
  exact keeps_done ⟨m, sender, recipient, envelope, uri, document, fromSet, toSet, by simp,
    by simp, first, by simpa using mediated, rfl⟩

end Keeps

theorem prepare_asks (routing : Routing) (m : Message) :
    (routing.prepare m).Asks (Effect.Prepares m) :=
  asks_of_keeps (keeps_prepare [] fun _ _ prepares => prepares)

theorem prepare_local (routing : Routing) (m : Message) : (routing.prepare m).Local :=
  asks_mono (routing.prepare_asks m) fun _ => Effect.local_of_prepares

theorem send_asks (routing : Routing) (m : Message) : (routing.send m).Asks (Effect.Sends m) := by
  rw [send_eq_prepare]
  refine asks_bind (asks_mono (routing.prepare_asks m) fun _ => Effect.sends_of_prepares) ?_
  intro prepared
  exact routing.post_asks trivial fun _ => trivial

end Routing

end DidMessaging
