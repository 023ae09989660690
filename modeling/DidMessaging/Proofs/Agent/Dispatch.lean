import DidMessaging.Proofs.Agent.Exchange

/-! Sending a message step by step: what is asked of the world and in which order, and which of the
failures that may come up is the outcome. -/

namespace DidMessaging

def Effect.isBookkeeping : Effect → Bool
  | .freshId | .now | .log _ => true
  | _ => false

namespace Run

def asked (run : Run σ α) : List Step := run.steps.filter fun step => !step.effect.isBookkeeping

theorem picked_asked (run : Run σ α) {pick : Step → Option β}
    (skips : ∀ effect answer, effect.isBookkeeping = true → pick ⟨effect, answer⟩ = none) :
    run.steps.filterMap pick = run.asked.filterMap pick := by
  rw [asked, List.filterMap_filter]
  refine List.filterMap_congr fun step _ => ?_
  cases quiet : step.effect.isBookkeeping with
  | true => exact skips step.effect step.answer quiet
  | false => rfl

def resolvedIn (steps : List Step) : List String :=
  steps.filterMap fun step =>
    match step.effect with
    | .resolve did => some did
    | _ => none

def exchangedIn (steps : List Step) : List (Request × Except Error Response) :=
  steps.filterMap fun
    | ⟨.exchange request, reply⟩ => some (request, reply)
    | _ => none

theorem resolved_eq_asked (run : Run σ α) : run.resolved = resolvedIn run.asked := by
  refine run.picked_asked fun effect _ quiet => ?_
  cases effect with
  | resolve => cases quiet
  | _ => rfl

theorem exchanges_eq_asked (run : Run σ α) : run.exchanges = exchangedIn run.asked := by
  refine run.picked_asked fun effect _ quiet => ?_
  cases effect with
  | exchange => cases quiet
  | _ => rfl

end Run

namespace Program

variable {ports : Ports σ}

/-- In every world, `post` holds of what the program asks and of its outcome. -/
def Proceeds (ports : Ports σ) (post : List Step → Except AgentError α → Prop)
    (p : Program α) : Prop :=
  ∀ w, post (p.run ports w).asked (p.run ports w).result

variable {post : List Step → Except AgentError α → Prop}

theorem proceeds_fail {e : AgentError} (holds : post [] (.error e)) :
    (Program.fail e).Proceeds ports post :=
  fun _ => holds

theorem proceeds_bookkeeping {effect : Effect} {next : effect.Answer → Program α}
    (quiet : effect.isBookkeeping = true) (rest : ∀ answer, (next answer).Proceeds ports post) :
    (perform effect >>= next).Proceeds ports post := by
  intro w
  have rest := rest (ports.answer w effect).1 (ports.answer w effect).2
  have steps : ((perform effect >>= next).run ports w).asked =
      ((next (ports.answer w effect).1).run ports (ports.answer w effect).2).asked :=
    List.filter_cons_of_neg (by simpa using quiet)
  rw [steps]
  exact rest

theorem proceeds_perform {effect : Effect} {next : effect.Answer → Program α}
    (asks : effect.isBookkeeping = false)
    (rest : ∀ answer,
      (next answer).Proceeds ports fun asked => post (⟨effect, answer⟩ :: asked)) :
    (perform effect >>= next).Proceeds ports post := by
  intro w
  have rest := rest (ports.answer w effect).1 (ports.answer w effect).2
  have steps : ((perform effect >>= next).run ports w).asked =
      ⟨effect, (ports.answer w effect).1⟩ ::
        ((next (ports.answer w effect).1).run ports (ports.answer w effect).2).asked :=
    List.filter_cons_of_pos (by simpa using asks)
  rw [steps]
  exact rest

theorem proceeds_resolve {did : String} {next : Document → Program α}
    (failed : ∀ e, post [⟨.resolve did, .error e⟩] (.error (.core e)))
    (found : ∀ document, (next document).Proceeds ports fun asked =>
      post (⟨.resolve did, .ok document⟩ :: asked)) :
    (resolve did >>= next).Proceeds ports post := by
  rw [resolve, LawfulMonad.bind_assoc]
  refine proceeds_perform rfl fun outcome => ?_
  cases outcome with
  | error e => exact proceeds_fail (failed e)
  | ok document => exact found document

theorem proceeds_pack {m : Message} {parties : String × String} (set : m.parties = .ok parties)
    {next : String → Program α} (failed : ∀ e, post [⟨.pack m, .error e⟩] (.error (.core e)))
    (packed : ∀ envelope, (next envelope).Proceeds ports fun asked =>
      post (⟨.pack m, .ok envelope⟩ :: asked)) :
    (pack m >>= next).Proceeds ports post := by
  rw [pack, set]
  change (perform (.pack m) >>= core >>= next).Proceeds ports post
  rw [LawfulMonad.bind_assoc]
  refine proceeds_perform rfl fun outcome => ?_
  cases outcome with
  | error e => exact proceeds_fail (failed e)
  | ok envelope => exact packed envelope

end Program

namespace Routing

open Program

inductive Relayed (routing : Routing) (sender recipient mediator envelope : String) :
    List Step → Except AgentError Request → Prop
  | unresolved (e : Error) :
      Relayed routing sender recipient mediator envelope
        [⟨.resolve mediator, .error e⟩] (.error (.core e))
  | unserved {relay : Document}
      (nowhere : ∀ address, ¬FirstEndpoint routing.serviceType relay address) :
      Relayed routing sender recipient mediator envelope
        [⟨.resolve mediator, .ok relay⟩] (.error (.noService (some mediator)))
  | chained {relay : Document} {address : String}
      (first : FirstEndpoint routing.serviceType relay address) (agent : isDid address = true) :
      Relayed routing sender recipient mediator envelope
        [⟨.resolve mediator, .ok relay⟩] (.error (.mediatorChain mediator address))
  | unpacked {relay : Document} {address : String}
      (first : FirstEndpoint routing.serviceType relay address) (plain : isDid address = false)
      (id attachmentId created : String) (e : Error) :
      Relayed routing sender recipient mediator envelope
        [⟨.resolve mediator, .ok relay⟩,
          ⟨.pack (Forward.message ⟨id, recipient, envelope, sender, mediator⟩ attachmentId created),
            .error e⟩] (.error (.core e))
  | ready {relay : Document} {address : String}
      (first : FirstEndpoint routing.serviceType relay address) (plain : isDid address = false)
      (id attachmentId created packed : String) :
      Relayed routing sender recipient mediator envelope
        [⟨.resolve mediator, .ok relay⟩,
          ⟨.pack (Forward.message ⟨id, recipient, envelope, sender, mediator⟩ attachmentId created),
            .ok packed⟩] (.ok (routing.request address packed))

/-- What is asked of the world until a message is ready to be posted, and what that comes to: a
request, or the failure of the first step that fails. -/
inductive Prepared (routing : Routing) (m : Message) (sender recipient : String) :
    List Step → Except AgentError Request → Prop
  | unresolved (e : Error) :
      Prepared routing m sender recipient [⟨.resolve recipient, .error e⟩] (.error (.core e))
  | unpacked (document : Document) (e : Error) :
      Prepared routing m sender recipient
        [⟨.resolve recipient, .ok document⟩, ⟨.pack m, .error e⟩] (.error (.core e))
  | unserved {document : Document} (envelope : String)
      (nowhere : ∀ uri, ¬FirstEndpoint routing.serviceType document uri) :
      Prepared routing m sender recipient
        [⟨.resolve recipient, .ok document⟩, ⟨.pack m, .ok envelope⟩]
        (.error (.noService (some recipient)))
  | ready {document : Document} {uri : String} (envelope : String)
      (first : FirstEndpoint routing.serviceType document uri) (plain : isDid uri = false) :
      Prepared routing m sender recipient
        [⟨.resolve recipient, .ok document⟩, ⟨.pack m, .ok envelope⟩]
        (.ok (routing.request uri envelope))
  | relayed {document : Document} {mediator envelope : String} {steps : List Step}
      {prepared : Except AgentError Request}
      (first : FirstEndpoint routing.serviceType document mediator) (agent : isDid mediator = true)
      (onward : Relayed routing sender recipient mediator envelope steps prepared) :
      Prepared routing m sender recipient
        (⟨.resolve recipient, .ok document⟩ :: ⟨.pack m, .ok envelope⟩ :: steps) prepared

inductive Concluded (steps : List Step) :
    Except AgentError Request → List Step → Except AgentError (Option (List UInt8)) → Prop
  | failed (e : AgentError) : Concluded steps (.error e) steps (.error e)
  | posted (request : Request) (reply : Except Error Response) :
      Concluded steps (.ok request) (steps ++ [⟨.exchange request, reply⟩]) (sent reply)

variable {ports : Ports σ} {routing : Routing}
  {post : List Step → Except AgentError (Option (List UInt8)) → Prop}

theorem proceeds_endpoint {did : String} {document : Document}
    {next : String → Program (Option (List UInt8))}
    (nowhere : (∀ uri, ¬FirstEndpoint routing.serviceType document uri) →
      post [] (.error (.noService (some did))))
    (found : ∀ uri, FirstEndpoint routing.serviceType document uri →
      (next uri).Proceeds ports post) :
    (routing.endpoint did document >>= next).Proceeds ports post := by
  rw [endpoint]
  cases offered : document.service? routing.serviceType with
  | none =>
      refine proceeds_fail (nowhere fun uri first => ?_)
      obtain ⟨service, found, -⟩ := firstEndpoint_iff.1 first
      cases offered.symm.trans found
  | some service => exact found service.endpoint.uri (firstEndpoint_iff.2 ⟨service, offered, rfl⟩)

theorem proceeds_post {uri envelope : String}
    (holds : ∀ reply, post [⟨.exchange (routing.request uri envelope), reply⟩] (sent reply)) :
    (routing.post uri envelope).Proceeds ports post := by
  refine proceeds_perform rfl fun reply => ?_
  cases reply with
  | error e => exact proceeds_fail (holds (.error e))
  | ok response =>
      change (ite _ _ _ : Program _).Proceeds ports _
      split
      · exact proceeds_bookkeeping rfl fun _ _ => holds (.ok response)
      · exact fun _ => holds (.ok response)

theorem proceeds_sendForward (type sender recipient mediator envelope : String)
    (holds : ∀ {steps prepared asked outcome},
      Relayed routing sender recipient mediator envelope steps prepared →
      Concluded steps prepared asked outcome → post asked outcome) :
    (routing.sendForward type sender recipient mediator envelope).Proceeds ports post := by
  rw [sendForward, mediatorAddress, LawfulMonad.bind_assoc]
  refine proceeds_resolve (fun e => holds (.unresolved e) (.failed _)) fun relay => ?_
  rw [LawfulMonad.bind_assoc]
  refine proceeds_endpoint (fun nowhere => holds (.unserved nowhere) (.failed _)) ?_
  intro address first
  cases agent : isDid address with
  | true => exact proceeds_fail (holds (.chained first agent) (.failed _))
  | false =>
      refine proceeds_bookkeeping rfl fun id => ?_
      refine proceeds_bookkeeping rfl fun _ => ?_
      refine proceeds_bookkeeping rfl fun attachmentId => ?_
      refine proceeds_bookkeeping rfl fun created => ?_
      refine proceeds_pack rfl (fun e => ?_) fun packed => proceeds_post fun reply => ?_
      · exact holds (.unpacked first agent id attachmentId created e) (.failed _)
      · exact holds (.ready first agent id attachmentId created packed) (.posted _ reply)

theorem proceeds_send {m : Message} {sender recipient : String}
    (set : m.parties = .ok (sender, recipient)) (made : m.direction ≠ .received) :
    (routing.send m).Proceeds ports fun asked outcome => ∃ steps prepared,
      Prepared routing m sender recipient steps prepared ∧
        Concluded steps prepared asked outcome := by
  rw [send, set]
  change (ite (m.direction = .received) _ _ : Program _).Proceeds ports _
  rw [if_neg made]
  refine proceeds_resolve (fun e => ⟨_, _, .unresolved e, .failed _⟩) fun document => ?_
  refine proceeds_pack set (fun e => ⟨_, _, .unpacked document e, .failed _⟩) fun envelope => ?_
  refine proceeds_endpoint (fun nowhere => ⟨_, _, .unserved envelope nowhere, .failed _⟩) ?_
  intro uri first
  cases agent : isDid uri with
  | true =>
      refine proceeds_sendForward m.type sender recipient uri envelope ?_
      intro steps prepared asked outcome onward concluded
      refine ⟨_, prepared, .relayed first agent onward, ?_⟩
      cases concluded with
      | failed e => exact .failed e
      | posted request reply => exact .posted request reply
  | false =>
      refine proceeds_bookkeeping rfl fun _ => proceeds_post fun reply => ?_
      exact ⟨_, _, .ready envelope first agent, .posted _ reply⟩

def Refers (routing : Routing) (m : Message) (recipient : String) (asked : List Step)
    (did : String) : Prop :=
  ∃ document envelope, [⟨.resolve recipient, .ok document⟩, ⟨.pack m, .ok envelope⟩] <+: asked ∧
    FirstEndpoint routing.serviceType document did ∧ isDid did = true

section Prepared

variable {m : Message} {sender recipient : String} {steps : List Step}
  {prepared : Except AgentError Request}

theorem Relayed.resolves {mediator envelope : String}
    (relayed : Relayed routing sender recipient mediator envelope steps prepared) :
    Run.resolvedIn steps = [mediator] ∧ Run.exchangedIn steps = [] := by
  cases relayed <;> exact ⟨rfl, rfl⟩

theorem Prepared.exchanges (ways : Prepared routing m sender recipient steps prepared) :
    Run.exchangedIn steps = [] := by
  cases ways with
  | relayed _ _ onward => exact onward.resolves.2
  | _ => rfl

theorem Prepared.resolves (ways : Prepared routing m sender recipient steps prepared)
    (later : List Step) :
    (Run.resolvedIn steps = [recipient] ∧
        ∀ did, ¬Refers routing m recipient (steps ++ later) did) ∨
      ∃ did, Run.resolvedIn steps = [recipient, did] ∧
        ∀ other, Refers routing m recipient (steps ++ later) other ↔ did = other := by
  cases ways with
  | unresolved e =>
      refine .inl ⟨rfl, ?_⟩
      rintro did ⟨document, envelope, begins, -⟩
      cases (List.cons_prefix_cons.1 begins).1
  | unpacked document e =>
      refine .inl ⟨rfl, ?_⟩
      rintro did ⟨_, envelope, begins, -⟩
      cases (List.cons_prefix_cons.1 (List.cons_prefix_cons.1 begins).2).1
  | unserved envelope nowhere =>
      refine .inl ⟨rfl, ?_⟩
      rintro did ⟨document, _, begins, first, -⟩
      cases (List.cons_prefix_cons.1 begins).1
      exact nowhere did first
  | ready envelope first plain =>
      refine .inl ⟨rfl, ?_⟩
      rintro did ⟨document, _, begins, again, agent⟩
      cases (List.cons_prefix_cons.1 begins).1
      rw [firstEndpoint_unique first again, agent] at plain
      cases plain
  | @relayed document mediator envelope onwardSteps _ first agent onward =>
      refine .inr ⟨mediator, congrArg (recipient :: ·) onward.resolves.1, fun other => ?_⟩
      constructor
      · rintro ⟨document, _, begins, again, -⟩
        cases (List.cons_prefix_cons.1 begins).1
        exact firstEndpoint_unique first again
      · rintro rfl
        exact ⟨document, envelope, ⟨onwardSteps ++ later, rfl⟩, first, agent⟩

end Prepared

/-- What is posted is the request that was prepared, and nothing else happens but that. -/
theorem Concluded.posts {steps asked : List Step} {prepared : Except AgentError Request}
    {outcome : Except AgentError (Option (List UInt8))}
    (concluded : Concluded steps prepared asked outcome) :
    ∃ later, asked = steps ++ later ∧ Run.resolvedIn later = [] ∧
      (Run.exchangedIn later).map Prod.fst = prepared.toOption.toList := by
  cases concluded with
  | failed e => exact ⟨[], (List.append_nil _).symm, rfl, rfl⟩
  | posted request reply => exact ⟨_, rfl, rfl, rfl⟩

theorem run_send_refused {m : Message} {e : Error} (refused : m.parties = .error e) (w : World σ) :
    (routing.send m).run ports w = ⟨.error (.core e), w, []⟩ := by
  rw [send, refused]
  rfl

theorem run_send_received {m : Message} {parties : String × String} (set : m.parties = .ok parties)
    (received : m.direction = .received) (w : World σ) :
    (routing.send m).run ports w = ⟨.error (.alreadyReceived m.id), w, []⟩ := by
  rw [send, set]
  change (ite (m.direction = .received) _ _ : Program _).run ports w = _
  rw [if_pos received]
  rfl

/-- Sending goes by steps, each taken only if all before it have succeeded. A message without its
parties, or one that was received, is refused before anything is asked. Otherwise the recipient is
resolved, and one more DID exactly if the recipient's document is known, the message is packed and
the document refers to that DID. The first failure on the way is the outcome, and if there is none
the one request that was prepared is posted. -/
theorem send_by_steps (routing : Routing) (m : Message) (ports : Ports σ) (w : World σ) :
    let run := (routing.send m).run ports w
    (m.recipient = none → run.asked = [] ∧ run.result = .error (.core .noRecipient)) ∧
    (m.recipient ≠ none → m.sender = none →
      run.asked = [] ∧ run.result = .error (.core .noSender)) ∧
    (m.recipient ≠ none → m.sender ≠ none → m.direction = .received →
      run.asked = [] ∧ run.result = .error (.alreadyReceived m.id)) ∧
    (∀ sender recipient, m.sender = some sender → m.recipient = some recipient →
      m.direction = .sent →
        (run.resolved = [recipient] ∨ ∃ did, run.resolved = [recipient, did]) ∧
        (∀ did, run.resolved = [recipient, did] ↔ Refers routing m recipient run.asked did) ∧
        ∃ steps prepared, Prepared routing m sender recipient steps prepared ∧
          Concluded steps prepared run.asked run.result ∧
          run.requests = prepared.toOption.toList) ∧
    (∀ answer, run.result = .ok answer → ∃ request, run.requests = [request]) ∧
    (∀ e, run.result = .error e → run.requests = [] ∨
      ∃ request fault, run.exchanges = [(request, .error fault)] ∧ e = .core fault) ∧
    ∀ step ∈ run.steps, ∃ there, step.answer = (ports.answer there step.effect).1 := by
  intro run
  have exchanges : (routing.send m).ExchangesOnce ports sent := routing.once_send m
  have once := exchanges w
  refine ⟨fun unset => ?_, fun toSet unset => ?_, fun toSet fromSet received => ?_, ?_, ?_, ?_,
    steps_answered _ ports w⟩
  · have refused : m.parties = .error .noRecipient := by rw [Message.parties, unset]
    simp only [run, run_send_refused refused, Run.asked, List.filter_nil, and_self]
  · obtain ⟨recipient, named⟩ := Option.ne_none_iff_exists'.1 toSet
    have refused : m.parties = .error .noSender := by rw [Message.parties, named, unset]
    simp only [run, run_send_refused refused, Run.asked, List.filter_nil, and_self]
  · obtain ⟨recipient, named⟩ := Option.ne_none_iff_exists'.1 toSet
    obtain ⟨sender, signed⟩ := Option.ne_none_iff_exists'.1 fromSet
    have set := Message.parties_eq_ok.2 ⟨signed, named⟩
    simp only [run, run_send_received set received, Run.asked, List.filter_nil, and_self]
  -- Past the refusals, what is resolved comes of the preparations alone, and what is posted of
  -- their outcome.
  · intro sender recipient signed named sent
    have set := Message.parties_eq_ok.2 ⟨signed, named⟩
    have goes : ∃ steps prepared, Prepared routing m sender recipient steps prepared ∧
        Concluded steps prepared run.asked run.result :=
      proceeds_send set (by rw [sent]; decide) w
    obtain ⟨steps, prepared, ways, concluded⟩ := goes
    obtain ⟨later, asked, unresolved, posted⟩ := concluded.posts
    have resolved : run.resolved = Run.resolvedIn steps := by
      rw [run.resolved_eq_asked, asked, Run.resolvedIn, List.filterMap_append]
      exact (congrArg _ unresolved).trans (List.append_nil _)
    have requests : run.requests = prepared.toOption.toList := by
      rw [run.requests_eq_map, run.exchanges_eq_asked, asked, Run.exchangedIn,
        List.filterMap_append, List.map_append]
      exact (congrArg₂ _ (congrArg (List.map Prod.fst) ways.exchanges) posted).trans
        (List.nil_append _)
    have ends := ways.resolves later
    rw [← resolved, ← asked] at ends
    refine ⟨?_, fun did => ?_, steps, prepared, ways, concluded, requests⟩
    · exact ends.imp And.left fun ⟨did, both, _⟩ => ⟨did, both⟩
    · rcases ends with ⟨one, refers⟩ | ⟨other, two, refers⟩
      · rw [one]
        exact iff_of_false (by simp) (refers did)
      · rw [two, refers did]
        simp
  · intro answer answered
    rcases once with ⟨-, e, failed⟩ | ⟨request, reply, single, -⟩
    · cases answered.symm.trans failed
    · exact ⟨request, run.requests_eq_map.trans (congrArg (List.map Prod.fst) single)⟩
  · intro e failed
    rcases once with ⟨none, -⟩ | ⟨request, reply, single, same⟩
    · exact .inl (run.requests_eq_map.trans (congrArg (List.map Prod.fst) none))
    · cases reply with
      | error fault =>
          cases failed.symm.trans same
          exact .inr ⟨request, fault, single, rfl⟩
      | ok response => cases failed.symm.trans same

end Routing

def entangledSandbox : Sandbox where
  documents := [
    ⟨"did:ex:b", [⟨"#1", ["DIDCommMessaging"], ⟨"did:ex:m", [], []⟩⟩]⟩,
    ⟨"did:ex:m", [⟨"#1", ["DIDCommMessaging"], ⟨"did:ex:b", [], []⟩⟩]⟩]

theorem entangled_send_by_steps :
    let run := (Routing.send {} relayedMessage).run (entangledSandbox.ports "id" "now") ⟨{}, none⟩
    run.resolved = ["did:ex:b", "did:ex:m"] ∧
      Routing.Refers {} relayedMessage "did:ex:b" run.asked "did:ex:m" ∧
      run.result = .error (.mediatorChain "did:ex:m" "did:ex:b") ∧ run.requests = [] := by
  intro run
  have resolved : run.resolved = ["did:ex:b", "did:ex:m"] := by decide +kernel
  have result : run.result = .error (.mediatorChain "did:ex:m" "did:ex:b") := by decide +kernel
  obtain ⟨-, -, -, steps, -, failures, -⟩ :=
    Routing.send_by_steps {} relayedMessage (entangledSandbox.ports "id" "now") ⟨{}, none⟩
  obtain ⟨-, refers, -⟩ := steps "did:ex:a" "did:ex:b" rfl rfl rfl
  refine ⟨resolved, (refers "did:ex:m").1 resolved, result, ?_⟩
  rcases failures _ result with none | ⟨request, fault, -, other⟩
  · exact none
  · cases other

end DidMessaging
