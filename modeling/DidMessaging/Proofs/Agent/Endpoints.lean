import DidMessaging.Proofs.Agent.Answers
import DidMessaging.Proofs.Agent.Statuses

namespace DidMessaging

/-- Outcomes of a resolution that send messages the same way: the same failure, or documents with
the same first endpoint of the type, or with none. -/
inductive SameEndpoint (type : String) :
    Except Error Document → Except Error Document → Prop where
  | failed (e : Error) : SameEndpoint type (.error e) (.error e)
  | found {document document' : Document}
      (same : ∀ uri, FirstEndpoint type document uri ↔ FirstEndpoint type document' uri) :
      SameEndpoint type (.ok document) (.ok document')

theorem sameEndpoint_of_first {type : String} {document document' : Document}
    (earlier earlier' : List Service) {later later' : List Service} {service service' : Service}
    (split : document.services = earlier ++ service :: later)
    (split' : document'.services = earlier' ++ service' :: later')
    (absent : ∀ other ∈ earlier, type ∉ other.types)
    (absent' : ∀ other ∈ earlier', type ∉ other.types)
    (present : type ∈ service.types) (present' : type ∈ service'.types)
    (uris : service.endpoint.uri = service'.endpoint.uri) :
    SameEndpoint type (.ok document) (.ok document') := by
  have first : FirstEndpoint type document service.endpoint.uri :=
    ⟨earlier, service, later, split, present, absent, rfl⟩
  have first' : FirstEndpoint type document' service.endpoint.uri :=
    ⟨earlier', service', later', split', present', absent', uris.symm⟩
  refine .found fun uri => ⟨fun named => ?_, fun named => ?_⟩
  · exact firstEndpoint_unique first named ▸ first'
  · exact firstEndpoint_unique first' named ▸ first

theorem Document.service?_same {type : String} {document document' : Document}
    (same : ∀ uri, FirstEndpoint type document uri ↔ FirstEndpoint type document' uri) :
    (document.service? type).map (·.endpoint.uri) =
      (document'.service? type).map (·.endpoint.uri) := by
  apply Option.ext
  intro uri
  simpa only [firstEndpoint_iff, Option.map_eq_some_iff] using same uri

namespace Program

def SameAnswer (type : String) : (effect : Effect) → effect.Answer → effect.Answer → Prop
  | .resolve _ => SameEndpoint type
  | _ => Eq

/-- Programs that do the same as long as they are given answers that are the same for the type. -/
inductive Parallel (type : String) : Program α → Program α → Prop where
  | done (a : α) : Parallel type (.done a) (.done a)
  | fail (e : AgentError) : Parallel type (.fail e) (.fail e)
  | ask {effect : Effect} {next next' : effect.Answer → Program α}
      (rest : ∀ answer answer', SameAnswer type effect answer answer' →
        Parallel type (next answer) (next' answer')) :
      Parallel type (.ask effect next) (.ask effect next')

variable {type : String}

theorem parallel_bind {p q : Program α} {f g : α → Program β} (first : p.Parallel type q)
    (rest : ∀ a, (f a).Parallel type (g a)) : (p >>= f).Parallel type (q >>= g) := by
  induction first with
  | done a => exact rest a
  | fail e => exact .fail e
  | ask _ ih => exact .ask ih

theorem parallel_refl {p : Program α} (within : p.Asks fun effect => effect.isResolution = false) :
    p.Parallel type p := by
  induction p with
  | done a => exact .done a
  | fail e => exact .fail e
  | ask effect next ih =>
      refine .ask fun answer answer' same => ?_
      have equal : answer = answer' := by
        cases effect with
        | resolve => cases within.1
        | _ => exact same
      exact equal ▸ ih answer (within.2 answer)

theorem parallel_resolve_bind {did : String} {f g : Document → Program α}
    (rest : ∀ document document', SameEndpoint type (.ok document) (.ok document') →
      (f document).Parallel type (g document')) :
    (resolve did >>= f).Parallel type (resolve did >>= g) := by
  refine .ask fun outcome outcome' same => ?_
  cases same with
  | failed e => exact .fail _
  | found same => exact rest _ _ (.found same)

end Program

namespace Routing

open Program

theorem endpoint_same {routing : Routing} {did : String} {document document' : Document}
    (same : SameEndpoint routing.serviceType (.ok document) (.ok document')) :
    routing.endpoint did document = routing.endpoint did document' := by
  cases same with
  | found same =>
      have uris := Document.service?_same same
      unfold endpoint
      cases offered : document.service? routing.serviceType with
      | none =>
          rw [offered] at uris
          rw [Option.map_eq_none_iff.1 uris.symm]
      | some service =>
          rw [offered] at uris
          obtain ⟨service', offered', uri⟩ := Option.map_eq_some_iff.1 uris.symm
          rw [offered']
          exact congrArg Program.done uri.symm

theorem parallel_mediatorAddress (routing : Routing) (mediator : String) :
    (routing.mediatorAddress mediator).Parallel routing.serviceType
      (routing.mediatorAddress mediator) := by
  apply parallel_resolve_bind
  intro document document' same
  rw [endpoint_same same]
  apply parallel_bind (parallel_refl (routing.endpoint_asks mediator document'))
  intro uri
  split
  · exact .fail _
  · exact .done uri

theorem parallel_wrapForward (routing : Routing)
    (type sender recipient mediator envelope : String) :
    (routing.wrapForward type sender recipient mediator envelope).Parallel routing.serviceType
      (routing.wrapForward type sender recipient mediator envelope) := by
  apply parallel_bind (routing.parallel_mediatorAddress mediator)
  intro address
  apply parallel_refl
  refine asks_bind (asks_perform rfl) fun id => asks_bind (asks_perform rfl) fun _ => ?_
  refine asks_bind (asks_perform rfl) fun attachmentId => ?_
  refine asks_bind (asks_perform rfl) fun created => ?_
  exact asks_bind (pack_asks rfl) fun _ => trivial

theorem parallel_prepare (routing : Routing) (m : Message) :
    (routing.prepare m).Parallel routing.serviceType (routing.prepare m) := by
  apply parallel_bind (parallel_refl (asks_core m.parties))
  intro parties
  show (ite _ _ _ : Program _).Parallel _ (ite _ _ _)
  split
  · exact .fail _
  · apply parallel_resolve_bind
    intro document document' same
    apply parallel_bind (parallel_refl (pack_asks rfl))
    intro envelope
    rw [endpoint_same same]
    apply parallel_bind (parallel_refl (routing.endpoint_asks parties.2 document'))
    intro uri
    split
    · exact routing.parallel_wrapForward m.type parties.1 parties.2 uri envelope
    · exact parallel_refl (asks_bind (asks_perform rfl) fun _ => trivial)

theorem parallel_send (routing : Routing) (m : Message) :
    (routing.send m).Parallel routing.serviceType (routing.send m) := by
  rw [send_eq_prepare]
  apply parallel_bind (routing.parallel_prepare m)
  intro prepared
  exact parallel_refl (routing.post_asks rfl fun _ => rfl)

theorem parallel_sendAndParse (routing : Routing) (m : Message) :
    (routing.sendAndParse m).Parallel routing.serviceType (routing.sendAndParse m) := by
  apply parallel_bind (routing.parallel_send m)
  intro answer
  exact parallel_refl (answered_unresolving m answer)

end Routing

/-- Others that answer alike, but for what resolved documents hold besides the endpoint of their
first service of the type. -/
structure SameButDocuments (type : String) (ports : Ports σ) (ports' : Ports τ)
    (alike : σ → τ → Prop) : Prop where
  resolve : ∀ did s s', alike s s' →
    SameEndpoint type (ports.resolve did s).1 (ports'.resolve did s').1 ∧
      alike (ports.resolve did s).2 (ports'.resolve did s').2
  other : ∀ effect w w', effect.isResolution = false → SameWorlds alike w w' →
    (ports.answer w effect).1 = (ports'.answer w' effect).1 ∧
      SameWorlds alike (ports.answer w effect).2 (ports'.answer w' effect).2

def Run.effects (run : Run σ α) : List Effect := run.steps.map Step.effect

structure SamePath (alike : σ → τ → Prop) (run : Run σ α) (run' : Run τ α) : Prop
    extends SameRuns alike run run' where
  effects : run.effects = run'.effects

section TwoResolvers

variable {type : String} {ports : Ports σ} {ports' : Ports τ} {alike : σ → τ → Prop}
  {w : World σ} {w' : World τ}

theorem SameButDocuments.answer (others : SameButDocuments type ports ports' alike)
    (worlds : SameWorlds alike w w') (effect : Effect) :
    Program.SameAnswer type effect (ports.answer w effect).1 (ports'.answer w' effect).1 ∧
      SameWorlds alike (ports.answer w effect).2 (ports'.answer w' effect).2 := by
  cases effect with
  | resolve did =>
      obtain ⟨same, later⟩ := others.resolve did w.outside w'.outside worlds.outside
      exact ⟨same, later, worlds.held⟩
  | _ => exact others.other _ w w' rfl worlds

/-- Programs that do the same take the same path among two resolvers. -/
theorem Program.parallel_runs (others : SameButDocuments type ports ports' alike)
    {p q : Program α} (both : p.Parallel type q) (worlds : SameWorlds alike w w') :
    SamePath alike (p.run ports w) (q.run ports' w') := by
  induction both generalizing w w' with
  | done a => exact ⟨⟨rfl, worlds, rfl, rfl⟩, rfl⟩
  | fail e => exact ⟨⟨rfl, worlds, rfl, rfl⟩, rfl⟩
  | @ask effect next next' rest ih =>
      obtain ⟨answers, later⟩ := others.answer worlds effect
      have same := ih _ _ answers later
      exact ⟨sameRuns_after same.toSameRuns _ _, congrArg (effect :: ·) same.effects⟩

/-- Only the endpoint of the first messaging service counts. Among others that differ in no more
than what else their documents hold, a message is sent, and its answer read, with the same result,
the same resolutions and the same requests, and with the same effects altogether, in the same order.
So it never matters which services of other types come before the first one of the type, which
services come after it, nor what it holds besides that type and its URI. -/
theorem Routing.sends_by_first_endpoint (routing : Routing) (m : Message)
    (others : SameButDocuments routing.serviceType ports ports' alike)
    (worlds : SameWorlds alike w w') :
    SamePath alike ((routing.send m).run ports w) ((routing.send m).run ports' w') ∧
    SamePath alike ((routing.sendAndParse m).run ports w)
      ((routing.sendAndParse m).run ports' w') ∧
    ∀ (document document' : Document) (earlier later earlier' later' : List Service)
      (service service' : Service),
      document.services = earlier ++ service :: later →
      document'.services = earlier' ++ service' :: later' →
      (∀ other ∈ earlier ++ earlier', routing.serviceType ∉ other.types) →
      routing.serviceType ∈ service.types → routing.serviceType ∈ service'.types →
      service.endpoint.uri = service'.endpoint.uri →
      SameEndpoint routing.serviceType (.ok document) (.ok document') := by
  refine ⟨Program.parallel_runs others (routing.parallel_send m) worlds,
    Program.parallel_runs others (routing.parallel_sendAndParse m) worlds, ?_⟩
  intro document document' earlier later earlier' later' service service' split split' absent
  exact sameEndpoint_of_first earlier earlier' split split'
    (fun other member => absent other (List.mem_append_left _ member))
    (fun other member => absent other (List.mem_append_right _ member))

end TwoResolvers

theorem Sandbox.sameButDocuments {type : String} {sandbox : Sandbox} {documents : List Document}
    (same : ∀ did,
      SameEndpoint type (sandbox.resolve did) ({ sandbox with documents }.resolve did))
    (id time : String) :
    SameButDocuments type (sandbox.ports id time) ({ sandbox with documents }.ports id time)
      Eq where
  resolve did _ _ outside := ⟨same did, outside⟩
  other := by
    rintro effect ⟨outside, held⟩ ⟨_, _⟩ elsewhere ⟨rfl, rfl⟩
    cases effect with
    | resolve => cases elsewhere
    | _ => exact ⟨rfl, rfl, rfl⟩

def furnishedDocuments : List Document := [
  ⟨"did:ex:b", [⟨"#9", ["Other", "Another"], ⟨"did:ex:o", ["x"], []⟩⟩,
    ⟨"#8", ["Second", "DIDCommMessaging"], ⟨"did:ex:m", ["didcomm/v2"], ["did:ex:k"]⟩⟩,
    ⟨"#2", ["DIDCommMessaging"], ⟨"https://o", [], []⟩⟩]⟩,
  ⟨"did:ex:m", [⟨"", ["DIDCommMessaging", "DIDCommMessaging"], ⟨"https://m", [], ["", ""]⟩⟩,
    ⟨"#1", ["DIDCommMessaging"], ⟨"did:ex:b", [], []⟩⟩]⟩]

theorem furnished_sends_by_first_endpoint :
    let run (sandbox : Sandbox) :=
      (Routing.sendAndParse {} relayedMessage).run (sandbox.ports "id" "now") ⟨{}, none⟩
    let furnished := { relayedSandbox with documents := furnishedDocuments }
    (∀ did, SameEndpoint "DIDCommMessaging" (relayedSandbox.resolve did) (furnished.resolve did)) ∧
      (run furnished).requests.map Request.url = ["https://m"] ∧
      (run furnished).resolved = ["did:ex:b", "did:ex:m"] ∧
      (run relayedSandbox).requests = (run furnished).requests := by
  intro run furnished
  have same (did : String) :
      SameEndpoint "DIDCommMessaging" (relayedSandbox.resolve did) (furnished.resolve did) := by
    by_cases first : did = "did:ex:b"
    · subst first
      exact sameEndpoint_of_first [_] [_] rfl rfl (by decide) (by decide)
        (by decide) (by decide) rfl
    · by_cases second : did = "did:ex:m"
      · subst second
        exact sameEndpoint_of_first [] [] rfl rfl (by decide) (by decide)
          (by decide) (by decide) rfl
      · have unknown (name : String) (other : ¬did = name) : ¬name = did := Ne.symm other
        simp [Sandbox.resolve, furnished, furnishedDocuments, relayedSandbox,
          unknown _ first, unknown _ second, SameEndpoint.failed]
  have others := Sandbox.sameButDocuments same "id" "now"
  have worlds : SameWorlds Eq (⟨{}, none⟩ : World SandboxState) ⟨{}, none⟩ := ⟨rfl, rfl⟩
  obtain ⟨-, both, -⟩ := Routing.sends_by_first_endpoint {} relayedMessage others worlds
  exact ⟨same, by decide +kernel, by decide +kernel, both.requests⟩

end DidMessaging
