import DidMessaging.Proofs.Agent.Exchange
import DidMessaging.Proofs.Agent.Relationship
import Mathlib.Data.List.Forall2

/-! The status of a response: an agent reports it, and nothing else depends on it. -/

namespace DidMessaging

def SameReply (reply other : Except Error Response) : Prop :=
  reply.map Response.body = other.map Response.body

namespace Program

/-- Programs that do the same for all answers, where replies that differ in the status count as the
same answer and reports of a status do not count at all; and `post` holds of what they give. -/
inductive Alike (post : α → Prop) : Program α → Program α → Prop where
  | done (a : α) (holds : post a) : Alike post (.done a) (.done a)
  | fail (e : AgentError) : Alike post (.fail e) (.fail e)
  | ask {effect : Effect} {next other : effect.Answer → Program α}
      (elsewhere : effect.isLocal = true)
      (rest : ∀ answer, Alike post (next answer) (other answer)) :
      Alike post (.ask effect next) (.ask effect other)
  | exchange {request : Request} {next other : Except Error Response → Program α}
      (rest : ∀ reply reply', SameReply reply reply' → Alike post (next reply) (other reply')) :
      Alike post (.ask (.exchange request) next) (.ask (.exchange request) other)
  | reportLeft {status : UInt16} {uri : String} {length : Nat} {next : Unit → Program α}
      {other : Program α} (rest : Alike post (next ()) other) :
      Alike post (.ask (.log (.errorStatus status uri length)) next) other
  | reportRight {status : UInt16} {uri : String} {length : Nat} {next : Unit → Program α}
      {other : Program α} (rest : Alike post other (next ())) :
      Alike post other (.ask (.log (.errorStatus status uri length)) next)

abbrev Blind (post : α → Prop) (p : Program α) : Prop := p.Alike post p

section Alike

variable {Q : α → Prop} {p q : Program α}

theorem alike_bind {R : β → Prop} {f g : α → Program β} (first : p.Alike Q q)
    (rest : ∀ a, Q a → (f a).Alike R (g a)) : (p >>= f).Alike R (q >>= g) := by
  induction first with
  | done a holds => exact rest a holds
  | fail e => exact .fail e
  | ask elsewhere _ ih => exact .ask elsewhere ih
  | exchange _ ih => exact .exchange ih
  | reportLeft _ ih => exact .reportLeft ih
  | reportRight _ ih => exact .reportRight ih

theorem alike_attempt (both : p.Alike Q q) :
    p.attempt.Alike (fun outcome => ∀ a, outcome = .ok a → Q a) q.attempt := by
  induction both with
  | done a holds => exact .done (Except.ok a) fun _ same => by cases same; exact holds
  | fail e => exact .done (Except.error e) nofun
  | ask elsewhere _ ih => exact .ask elsewhere ih
  | exchange _ ih => exact .exchange ih
  | reportLeft _ ih => exact .reportLeft ih
  | reportRight _ ih => exact .reportRight ih

theorem alike_mono {R : α → Prop} (both : p.Alike Q q) (implied : ∀ a, Q a → R a) :
    p.Alike R q := by
  have bound : (p.bind .done).Alike R (q.bind .done) :=
    alike_bind both fun a holds => .done a (implied a holds)
  rwa [bind_done, bind_done] at bound

theorem blind_of_keeps {past : List Step}
    (kept : p.Keeps (fun _ effect => effect.isLocal = true) (fun _ => Q) past) : p.Blind Q := by
  unfold Keeps at kept
  induction p generalizing past with
  | done a => exact .done a (kept a rfl)
  | fail e => exact .fail e
  | ask effect next ih => exact .ask kept.1 fun answer => ih answer (kept.2 answer)

theorem blind_of_local (here : p.Local) : p.Blind fun _ => True :=
  blind_of_keeps (keeps_of_asks [] here fun _ _ allowed => allowed)

end Alike

end Program

open Program

namespace Routing

theorem alike_reported {response other : Response} {uri : String} {length : Nat} {p q : Program α}
    {Q : α → Prop} (rest : p.Alike Q q) :
    (if response.isError then log (.errorStatus response.status uri length) >>= fun _ => p
      else p).Alike Q
    (if other.isError then log (.errorStatus other.status uri length) >>= fun _ => q else q) := by
  have left : (if response.isError then
      log (.errorStatus response.status uri length) >>= fun _ => p else p).Alike Q q := by
    cases response.isError with
    | true => exact .reportLeft rest
    | false => exact rest
  cases other.isError with
  | true => exact .reportRight left
  | false => exact left

theorem blind_post (routing : Routing) (uri envelope : String) :
    (routing.post uri envelope).Blind fun _ => True := by
  apply Alike.exchange
  intro reply reply' same
  cases reply with
  | error e =>
      cases reply' with
      | error e' => cases same; exact .fail _
      | ok other => cases same
  | ok response =>
      cases reply' with
      | error e => cases same
      | ok other =>
          have bodies : response.body = other.body := Except.ok.inj same
          apply alike_reported
          rw [bodies]
          exact .done _ trivial

theorem blind_send (routing : Routing) (m : Message) :
    (routing.send m).Blind fun _ => True := by
  rw [send_eq_prepare]
  apply alike_bind (blind_of_local (routing.prepare_local m))
  exact fun prepared _ => routing.blind_post prepared.1 prepared.2

end Routing

theorem Program.Orderly.blind {routing : Routing} {proper : Message → Prop}
    {allowed : Effect → Prop} {p : Program α} {Q : α → Prop}
    (orderly : p.Orderly routing proper allowed Q) : p.Blind Q := by
  induction orderly with
  | done a holds => exact .done a holds
  | fail error => exact .fail error
  | perform simple _ => exact blind_of_local (asks_perform (Effect.local_of_simple simple))
  | deliver _ _ => exact blind_of_local (asks_perform rfl)
  | unpack envelope => exact blind_of_keeps (keeps_unpack [] rfl)
  | pack _ => exact blind_of_local (pack_asks rfl)
  | send _ => exact routing.blind_send _
  | bind _ _ first rest => exact alike_bind first rest
  | attempt _ ih => exact alike_attempt ih
  | weaken _ implied ih => exact alike_mono ih implied

structure SameWorlds (alike : σ → τ → Prop) (w : World σ) (w' : World τ) : Prop where
  outside : alike w.outside w'.outside
  held : w.held = w'.held

/-- Others that answer alike, but for the statuses of their replies. -/
structure SameButStatuses (ports : Ports σ) (ports' : Ports τ) (alike : σ → τ → Prop) : Prop where
  exchange : ∀ request s s', alike s s' →
    SameReply (ports.exchange request s).1 (ports'.exchange request s').1 ∧
      alike (ports.exchange request s).2 (ports'.exchange request s').2
  other : ∀ effect w w', effect.isLocal = true → SameWorlds alike w w' →
    (ports.answer w effect).1 = (ports'.answer w' effect).1 ∧
      SameWorlds alike (ports.answer w effect).2 (ports'.answer w' effect).2

structure SameRuns (alike : σ → τ → Prop) (run : Run σ α) (run' : Run τ α) : Prop where
  result : run.result = run'.result
  worlds : SameWorlds alike run.world run'.world
  resolved : run.resolved = run'.resolved
  requests : run.requests = run'.requests

section TwoWorlds

variable {ports : Ports σ} {ports' : Ports τ} {alike : σ → τ → Prop}

theorem sameRuns_after {run : Run σ α} {run' : Run τ α} (same : SameRuns alike run run')
    {effect : Effect} (answer answer' : effect.Answer) :
    SameRuns alike (run.after ⟨effect, answer⟩) (run'.after ⟨effect, answer'⟩) := by
  constructor
  · exact same.result
  · exact same.worlds
  · cases effect with
    | resolve did => exact congrArg (did :: ·) same.resolved
    | _ => exact same.resolved
  · cases effect with
    | exchange request => exact congrArg (request :: ·) same.requests
    | _ => exact same.requests

/-- Programs that are alike do the same in worlds that are alike. -/
theorem Program.alike_runs (others : SameButStatuses ports ports' alike) {p q : Program α}
    {Q : α → Prop} (both : p.Alike Q q) {w : World σ} {w' : World τ}
    (worlds : SameWorlds alike w w') :
    SameRuns alike (p.run ports w) (q.run ports' w') := by
  induction both generalizing w w' with
  | done a _ => exact ⟨rfl, worlds, rfl, rfl⟩
  | fail e => exact ⟨rfl, worlds, rfl, rfl⟩
  | @ask effect next other elsewhere rest ih =>
      obtain ⟨answers, later⟩ := others.other effect w w' elsewhere worlds
      have same := ih (ports.answer w effect).1 later
      simp only [Program.run]
      rw [answers] at same ⊢
      exact sameRuns_after same _ _
  | @exchange request next other rest ih =>
      obtain ⟨replies, later⟩ := others.exchange request w.outside w'.outside worlds.outside
      let after : World σ := { w with outside := (ports.exchange request w.outside).2 }
      let after' : World τ := { w' with outside := (ports'.exchange request w'.outside).2 }
      have worlds' : SameWorlds alike after after' := ⟨later, worlds.held⟩
      exact sameRuns_after (ih _ _ replies worlds') _ _
  -- A report is answered by nothing, and adds nothing to what was resolved or requested.
  | reportLeft rest ih =>
      have same := ih worlds
      exact ⟨same.result, same.worlds, same.resolved, same.requests⟩
  | reportRight rest ih =>
      have same := ih worlds
      exact ⟨same.result, same.worlds, same.resolved, same.requests⟩

/-- Deeds with the same operation and the same result that have resolved and requested the same and
leave the same relationship, state and content of the store. -/
inductive SameDeeds (stored : σ → Option Mediator) (stored' : τ → Option Mediator) :
    Deed σ → Deed τ → Prop where
  | of {operation : Operation} {run : Run σ operation.Result} {run' : Run τ operation.Result}
      (result : run.result = run'.result) (resolved : run.resolved = run'.resolved)
      (requests : run.requests = run'.requests) (held : run.world.held = run'.world.held)
      (state : RelationshipState.ofHeld run.world.held = RelationshipState.ofHeld run'.world.held)
      (content : stored run.world.outside = stored' run'.world.outside) :
      SameDeeds stored stored' ⟨operation, run⟩ ⟨operation, run'⟩

variable {stored : σ → Option Mediator} {stored' : τ → Option Mediator}

theorem sameDeeds_of_runs (content : ∀ s s', alike s s' → stored s = stored' s')
    {operation : Operation} {run : Run σ operation.Result} {run' : Run τ operation.Result}
    (same : SameRuns alike run run') :
    SameDeeds stored stored' ⟨operation, run⟩ ⟨operation, run'⟩ :=
  .of same.result same.resolved same.requests same.worlds.held (congrArg _ same.worlds.held)
    (content _ _ same.worlds.outside)

/-- The step of the comparison is a deed in each of the two worlds. -/
theorem Agent.performAll_same (agent : Agent) (others : SameButStatuses ports ports' alike)
    (content : ∀ s s', alike s s' → stored s = stored' s') (operations : List Operation)
    {w : World σ} {w' : World τ} (worlds : SameWorlds alike w w') :
    List.Forall₂ (SameDeeds stored stored') (agent.performAll ports operations w)
      (agent.performAll ports' operations w') := by
  induction operations generalizing w w' with
  | nil => exact .nil
  | cons operation operations ih =>
      have orderly := operation.orderly_program agent (fun _ => trivial) (fun _ _ => trivial)
        fun _ _ _ => trivial
      have same := alike_runs others orderly.blind worlds
      exact .cons (sameDeeds_of_runs content same) (ih same.worlds)

/-- Statuses change nothing. Two new agents that are asked for the same operations, one after the
other, among others that answer alike but for the statuses of their replies, do the same: operation
by operation the results are equal, the same is resolved and requested, and the same relationship is
held and the same mediator stored afterwards. -/
theorem Agent.statuses_change_nothing (agent : Agent)
    (others : SameButStatuses ports ports' alike)
    (content : ∀ s s', alike s s' → stored s = stored' s') (operations : List Operation)
    (s : σ) (s' : τ) (start : alike s s') :
    List.Forall₂ (SameDeeds stored stored') (agent.performAll ports operations ⟨s, none⟩)
      (agent.performAll ports' operations ⟨s', none⟩) :=
  agent.performAll_same others content operations ⟨start, rfl⟩

end TwoWorlds

def Reply.unmarked : Reply → Reply
  | .response answer => .response { answer with status := 0 }
  | .failure reason => .failure reason

def SandboxState.unmarked (s : SandboxState) : SandboxState :=
  { s with replies := s.replies.map Reply.unmarked }

def SandboxState.SameBodies (s s' : SandboxState) : Prop := s.unmarked = s'.unmarked

namespace Sandbox

theorem exchange_unmarked (request : Request) (s : SandboxState) :
    SameReply (exchange request s.unmarked).1 (exchange request s).1 ∧
      (exchange request s.unmarked).2 = (exchange request s).2.unmarked := by
  obtain ⟨replies, stored, loadFailures, storeFailures⟩ := s
  cases replies with
  | nil => exact ⟨rfl, rfl⟩
  | cons reply replies => cases reply <;> exact ⟨rfl, rfl⟩

theorem load_unmarked (s : SandboxState) :
    load s.unmarked = ((load s).1, (load s).2.unmarked) := by
  obtain ⟨replies, stored, loadFailures, storeFailures⟩ := s
  cases loadFailures <;> rfl

theorem store_unmarked (mediator : Mediator) (s : SandboxState) :
    store mediator s.unmarked = ((store mediator s).1, (store mediator s).2.unmarked) := by
  obtain ⟨replies, stored, loadFailures, storeFailures⟩ := s
  cases storeFailures <;> rfl

theorem sameButStatuses (sandbox : Sandbox) (id time : String) :
    SameButStatuses (sandbox.ports id time) (sandbox.ports id time) SandboxState.SameBodies where
  exchange := by
    intro request s s' same
    have first := exchange_unmarked request s
    have second := exchange_unmarked request s'
    rw [← same] at second
    exact ⟨first.1.symm.trans second.1, first.2.symm.trans second.2⟩
  other := by
    intro effect w w' elsewhere worlds
    have same : w.outside.unmarked = w'.outside.unmarked := worlds.outside
    cases effect with
    | exchange => cases elsewhere
    | loadMediator =>
        have both := (load_unmarked w.outside).symm.trans (same ▸ load_unmarked w'.outside)
        obtain ⟨answers, later⟩ := Prod.mk.inj both
        exact ⟨answers, later, worlds.held⟩
    | storeMediator mediator =>
        have both := (store_unmarked mediator w.outside).symm.trans
          (same ▸ store_unmarked mediator w'.outside)
        obtain ⟨answers, later⟩ := Prod.mk.inj both
        exact ⟨answers, later, worlds.held⟩
    | held => exact ⟨worlds.held, worlds⟩
    | hold => exact ⟨rfl, same, rfl⟩
    | _ => exact ⟨rfl, same, worlds.held⟩

end Sandbox

theorem refused_statuses_change_nothing :
    let agent : Agent := { mediator := "did:ex:m" }
    let script (first second : UInt16) : SandboxState :=
      { replies := [.response ⟨first, [65]⟩, .response ⟨second, []⟩] }
    let deeds (first second : UInt16) := agent.performAll (grantingSandbox.ports "id" "now")
      [.requestMediation "did:ex:h", .register ["did:ex:k"]] ⟨script first second, none⟩
    (script 200 204).SameBodies (script 500 404) ∧
      List.Forall₂ (SameDeeds SandboxState.stored SandboxState.stored) (deeds 200 204)
        (deeds 500 404) ∧
      (deeds 200 204).map (·.run.events) ≠ (deeds 500 404).map (·.run.events) ∧
      (deeds 500 404).map (RelationshipState.ofHeld ·.run.world.held) = [.granted, .active 1] := by
  intro agent script deeds
  have start : (script 200 204).SameBodies (script 500 404) := rfl
  have content (s s' : SandboxState) (same : s.SameBodies s') : s.stored = s'.stored := by
    have stored : s.unmarked.stored = s'.unmarked.stored := congrArg SandboxState.stored same
    exact stored
  refine ⟨start, ?_, by decide +kernel, by decide +kernel⟩
  exact agent.statuses_change_nothing (grantingSandbox.sameButStatuses "id" "now")
    content [.requestMediation "did:ex:h", .register ["did:ex:k"]] _ _ start

end DidMessaging
