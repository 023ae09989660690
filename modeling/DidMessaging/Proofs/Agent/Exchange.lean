import DidMessaging.Proofs.Agent.Forwarding
import DidMessaging.Proofs.Agent.Opening
import DidMessaging.Proofs.Message.Sealing

/-! Programs that turn to the transport at most once: what they come to is decided by its reply, and
they do turn to it when the recipient can be reached. -/

namespace DidMessaging

def Run.exchanges (run : Run σ α) : List (Request × Except Error Response) :=
  run.steps.filterMap fun
    | ⟨.exchange request, reply⟩ => some (request, reply)
    | _ => none

theorem Run.mem_exchanges {run : Run σ α} {request : Request} {reply : Except Error Response} :
    (request, reply) ∈ run.exchanges ↔ ⟨.exchange request, reply⟩ ∈ run.steps := by
  constructor
  · intro member
    obtain ⟨⟨effect, answer⟩, present, same⟩ := List.mem_filterMap.1 member
    cases effect with
    | exchange => cases same; exact present
    | _ => cases same
  · exact fun present => List.mem_filterMap.2 ⟨_, present, rfl⟩

theorem Run.requests_eq_map (run : Run σ α) : run.requests = run.exchanges.map Prod.fst := by
  rw [requests, exchanges, List.map_filterMap]
  refine List.filterMap_congr fun step _ => ?_
  obtain ⟨effect, answer⟩ := step
  cases effect <;> rfl

namespace Program

variable {ports : Ports σ} {w : World σ}

theorem exchanges_of_local {p : Program α} (here : p.Local) : (p.run ports w).exchanges = [] := by
  refine picks_nothing here (fun effect answer allowed => ?_) ports w
  cases effect with
  | exchange => cases allowed
  | _ => rfl

/-- The program fails before it turns to the transport, or it does so once and comes to `outcome` of
the reply. -/
def ExchangesOnce (ports : Ports σ) (outcome : Except Error Response → Except AgentError α)
    (p : Program α) : Prop :=
  ∀ w, ((p.run ports w).exchanges = [] ∧ ∃ e, (p.run ports w).result = .error e) ∨
    ∃ request reply, (p.run ports w).exchanges = [(request, reply)] ∧
      (p.run ports w).result = outcome reply

theorem once_congr {p : Program α} {outcome same : Except Error Response → Except AgentError α}
    (once : p.ExchangesOnce ports outcome) (equal : ∀ reply, outcome reply = same reply) :
    p.ExchangesOnce ports same :=
  funext equal ▸ once

theorem once_after_local {p : Program α} {f : α → Program β}
    {outcome : Except Error Response → Except AgentError β} (here : p.Local)
    (rest : ∀ a, (f a).ExchangesOnce ports outcome) : (p >>= f).ExchangesOnce ports outcome := by
  intro w
  have none : (p.run ports w).exchanges = [] := exchanges_of_local here
  cases result : (p.run ports w).result with
  | error e =>
      rw [run_bind_error result]
      exact .inl ⟨none, e, rfl⟩
  | ok a =>
      have all : ((p >>= f).run ports w).exchanges =
          ((f a).run ports (p.run ports w).world).exchanges :=
        picks_bind_ok none result
      rw [all, run_bind_ok result]
      exact rest a (p.run ports w).world

theorem once_before_local {p : Program α} {f : α → Program β}
    {outcome : Except Error Response → Except AgentError α} (next : α → Except AgentError β)
    (once : p.ExchangesOnce ports outcome)
    (here : ∀ a, (f a).Local) (settled : ∀ a w, ((f a).run ports w).result = next a) :
    (p >>= f).ExchangesOnce ports fun reply => (outcome reply).bind next := by
  intro w
  have before := once w
  have all : ((p >>= f).run ports w).exchanges = (p.run ports w).exchanges :=
    picks_bind fun a _ => exchanges_of_local (here a)
  cases result : (p.run ports w).result with
  | error e =>
      rw [run_bind_error result]
      rcases before with ⟨none, -⟩ | ⟨request, reply, single, same⟩
      · exact .inl ⟨none, e, rfl⟩
      · have came : outcome reply = .error e := same.symm.trans result
        refine .inr ⟨request, reply, single, ?_⟩
        simp only [came]
        rfl
  | ok a =>
      rcases before with ⟨-, e, failed⟩ | ⟨request, reply, single, same⟩
      -- Without an exchange `p` has failed.
      · cases result.symm.trans failed
      · have came : outcome reply = .ok a := same.symm.trans result
        refine .inr ⟨request, reply, all.trans single, ?_⟩
        rw [run_bind_ok result]
        simp only [came]
        exact settled a _

end Program

def Response.content? (response : Response) : Option (List UInt8) :=
  if response.body.isEmpty then none else some response.body

namespace Routing

open Program

variable {ports : Ports σ} {w : World σ} {routing : Routing} {codec : Codec}

def sent (reply : Except Error Response) : Except AgentError (Option (List UInt8)) :=
  (reply.mapError .core).map Response.content?

theorem once_post (routing : Routing) (uri envelope : String) :
    (routing.post uri envelope).ExchangesOnce ports sent := by
  intro w
  let request := routing.request uri envelope
  refine .inr ⟨request, (ports.answer w (.exchange request)).1, ?_, ?_⟩
  · obtain ⟨rest, split, asks⟩ := routing.post_eq_exchange uri envelope
    rw [split]
    change (request, _) :: ((rest _).run ports _).exchanges = _
    rw [exchanges_of_local (asks (fun _ => rfl) _)]
    rfl
  · change ((core (ports.answer w (.exchange request)).1 >>= _ : Program _).run ports _).result = _
    cases (ports.answer w (.exchange request)).1 with
    | error e => rfl
    | ok response =>
        change ((ite _ _ _ : Program _).run ports _).result = _
        split <;> rfl

theorem once_send (routing : Routing) (m : Message) :
    (routing.send m).ExchangesOnce ports sent := by
  rw [send_eq_prepare]
  exact once_after_local (routing.prepare_local m) fun prepared => routing.once_post _ _

theorem once_sendAndParse (uses : ports.Uses codec) (routing : Routing) (m : Message) :
    (routing.sendAndParse m).ExchangesOnce ports fun reply =>
      (sent reply).map fun content => content.bind codec.response? := by
  refine once_before_local (fun content => .ok (content.bind codec.response?)) (routing.once_send m)
    ?_ ?_
  · exact Agent.answered_local m
  · intro content w
    cases content with
    | none => rfl
    | some body => exact (steady_readResponse uses m.id body w).1

end Routing

namespace Codec

def collected (codec : Codec) : Option Message → Except AgentError (List (String × Message))
  | none => .ok []
  | some response => (MailboxAnswer.ofMessage response).map (MailboxAnswer.opened codec)

def polled (codec : Codec) (body : List UInt8) : Except AgentError (List (String × Message)) :=
  codec.collected (codec.response? body)

theorem content?_bind_response? (codec : Codec) (response : Response) :
    response.content?.bind codec.response? = codec.response? response.body := by
  unfold Response.content?
  cases response.body with
  | nil =>
      have empty : Text.ofUtf8 [] = .ok "" := Text.ofUtf8_eq_ok_iff.2 rfl
      simp [response?, empty]
  | cons byte bytes => rfl

/-- A codec that finds nothing in a blank text makes no difference between blank answers and others
that it cannot open. -/
theorem response?_utf8 {codec : Codec} (refuses : codec.RefusesBlank) (text : String) :
    codec.response? (Text.utf8 text) = (codec.unwrap text).toOption := by
  rw [response?, Text.ofUtf8_eq_ok_iff.2 rfl]
  dsimp only
  split
  · rename_i blank
    cases outcome : codec.unwrap text with
    | error e => rfl
    | ok m =>
        obtain ⟨opened, found, -⟩ := unwrap_eq_ok.1 outcome
        exact absurd blank (notBlank_of_unpack refuses found)
  · rfl

end Codec

namespace Agent

open Program

variable {ports : Ports σ} {w : World σ} {codec : Codec}

theorem once_pickUp (uses : ports.Uses codec) (agent : Agent) (limit : UInt32) :
    (agent.pickUp limit).ExchangesOnce ports fun reply =>
      (reply.mapError .core).bind fun response => codec.polled response.body := by
  refine once_after_local (current_asks rfl) fun relationship => ?_
  refine once_after_local (requestMessage_asks rfl rfl) fun m => ?_
  refine once_congr (once_before_local codec.collected
    (Routing.once_sendAndParse uses agent.routing m) ?_ ?_) fun reply => ?_
  · intro response
    cases response with
    | none => trivial
    | some response =>
        exact asks_bind (asks_ofExcept _) fun answer => answer.messages_local
  · intro response w
    cases response with
    | none => rfl
    | some response =>
        dsimp only [Codec.collected]
        cases MailboxAnswer.ofMessage response with
        | error e => rfl
        | ok answer => exact (MailboxAnswer.steady_messages uses answer w).1
  -- An empty body is no content, but nothing would be found in it either.
  · cases reply with
    | error e => rfl
    | ok response =>
        change codec.collected (response.content?.bind codec.response?) = _
        rw [codec.content?_bind_response?]
        rfl

def items : Except AgentError (List (String × Message)) →
    List (Except AgentError (String × Message))
  | .ok messages => messages.map .ok
  | .error e => [.error e]

theorem run_pickUpItems (agent : Agent) (limit : UInt32) :
    (agent.pickUpItems limit none).run ports w =
      ⟨.ok (items ((agent.pickUp limit).run ports w).result),
        ((agent.pickUp limit).run ports w).world, ((agent.pickUp limit).run ports w).steps⟩ := by
  have attempted := run_attempt (agent.pickUp limit) ports w
  change ((agent.pickUp limit).attempt >>= _ : Program _).run ports w = _
  rw [run_bind_ok (congrArg Run.result attempted), attempted]
  cases ((agent.pickUp limit).run ports w).result <;>
    exact congrArg (Run.mk _ _) (List.append_nil _)

theorem pickUpItems_answered (uses : ports.Uses codec) {agent : Agent} {limit : UInt32}
    {request : Request} {response : Response}
    (answered : ⟨.exchange request, .ok response⟩ ∈
      ((agent.pickUpItems limit none).run ports w).steps) :
    ((agent.pickUpItems limit none).run ports w).requests = [request] ∧
      ((agent.pickUpItems limit none).run ports w).result =
        .ok (items (codec.polled response.body)) := by
  rw [run_pickUpItems] at answered ⊢
  have member := Run.mem_exchanges.2 answered
  rcases once_pickUp uses agent limit w with ⟨none, -⟩ | ⟨asked, reply, single, result⟩
  · cases none ▸ member
  · cases List.mem_singleton.1 (single ▸ member)
    refine ⟨?_, congrArg (Except.ok <| items ·) result⟩
    exact (Run.requests_eq_map _).trans (congrArg (List.map Prod.fst) single)

end Agent

def Ports.Reaches (ports : Ports σ) (routing : Routing) (did : String) : Prop :=
  ∃ document uri, (∀ s, (ports.resolve did s).1 = .ok document) ∧
    FirstEndpoint routing.serviceType document uri ∧
    (isDid uri = true → ∃ relay address, (∀ s, (ports.resolve uri s).1 = .ok relay) ∧
      FirstEndpoint routing.serviceType relay address ∧ isDid address = false)

namespace Routing

open Program

variable {ports : Ports σ} {w : World σ} {routing : Routing}

theorem posts_send (packs : ∀ m s, ∃ envelope, (ports.pack m s).1 = .ok envelope) {m : Message}
    {sender recipient : String} (set : m.parties = .ok (sender, recipient))
    (made : m.direction ≠ .received) (reaches : ports.Reaches routing recipient) :
    ∃ request, ((routing.send m).run ports w).requests = [request] := by
  obtain ⟨document, uri, found, first, onward⟩ := reaches
  obtain ⟨envelope, packed⟩ := packs m (ports.resolve recipient w.outside).2
  rw [requests_send set made (found w.outside) packed first]
  split
  · rename_i agent
    obtain ⟨relay, address, foundRelay, next, plain⟩ := onward agent
    rw [sendForward, requests_mediatorAddress_bind (foundRelay _) next plain,
      requests_perform_bind rfl, log, requests_perform_bind rfl, requests_perform_bind rfl,
      requests_perform_bind rfl]
    obtain ⟨sealed, ok⟩ := packs (Forward.message ⟨_, recipient, envelope, sender, uri⟩ _ _) _
    rw [requests_pack_bind rfl ok, requests_post]
    exact ⟨_, rfl⟩
  · exact ⟨_, rfl⟩

end Routing

end DidMessaging
