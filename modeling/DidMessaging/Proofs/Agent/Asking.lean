import DidMessaging.Proofs.Agent.Exchange

/-! Operations that ask something of the mediator that is held: all they request is requested where
their one message is sent. -/

namespace DidMessaging

/-- All requests of `whole` are those of `part`, whose steps are among its own. -/
structure Run.Within (part : Run σ α) (whole : Run σ β) : Prop where
  steps : part.steps ⊆ whole.steps
  requests : whole.requests = part.requests

theorem Run.Within.of_steps {part : Run σ α} {whole : Run σ β} (same : whole.steps = part.steps) :
    part.Within whole where
  steps := by rw [same]; exact List.Subset.refl _
  requests := by simp only [Run.requests, same]

namespace Program

variable {ports : Ports σ} {w : World σ}

theorem within_before_local {p : Program α} {f : α → Program β} (here : ∀ a, (f a).Local) :
    (p.run ports w).Within ((p >>= f).run ports w) where
  steps := (steps_prefix_bind p f ports w).subset
  requests := picks_bind fun a _ => requests_of_local (here a)

theorem within_after_local {p : Program α} {f : α → Program β} {a : α} {part : Run σ γ}
    (here : p.Local) (reached : (p.run ports w).result = .ok a)
    (rest : part.Within ((f a).run ports (p.run ports w).world)) :
    part.Within ((p >>= f).run ports w) where
  steps step member := by
    rw [run_bind_ok reached]
    exact List.mem_append_right _ (rest.steps member)
  requests := (picks_bind_ok (requests_of_local here) reached).trans rest.requests

theorem within_exclusively {p : Program α} {part : Run σ γ} (within : part.Within (p.run ports w)) :
    part.Within ((exclusively p).run ports w) where
  steps step member := by
    rw [run_exclusively]
    exact List.mem_cons_of_mem _ (List.mem_append_left _ (within.steps member))
  requests := (picks_exclusively rfl rfl).trans within.requests

end Program

namespace Agent

open Program

variable {ports : Ports σ} {w : World σ} {relationship : Relationship}
  {rest : Relationship → Message → Option (List UInt8) → Program α}

theorem result_current (held : w.held = some relationship) :
    (current.run ports w).result = .ok relationship := by
  obtain ⟨outside, _⟩ := w
  subst held
  rfl

theorem within_asking (agent : Agent) (ports : Ports σ) (request : HostRequest)
    (held : w.held = some relationship)
    (here : ∀ relationship m answer, (rest relationship m answer).Local) :
    let m := request.message relationship.mediator.host relationship.mediator.did
    ∃ stamp there, ((agent.routing.send (m stamp)).run ports there).Within
      ((agent.asking request rest).run ports w) := by
  intro m
  let mediator := relationship.mediator
  let w₁ := (current.run ports w).world
  let stamp : Stamp :=
    ⟨(ports.freshId w₁.outside).1, (ports.now (ports.freshId w₁.outside).2).1⟩
  let there := ((requestMessage request mediator.host mediator.did).run ports w₁).world
  refine ⟨stamp, there, ?_⟩
  apply within_after_local (current_asks rfl) (result_current held)
  apply within_after_local (requestMessage_asks rfl rfl) rfl
  exact within_before_local (here relationship _)

theorem posts_asking (packs : ∀ m s, ∃ envelope, (ports.pack m s).1 = .ok envelope) (agent : Agent)
    (request : HostRequest) (held : w.held = some relationship)
    (here : ∀ relationship m answer, (rest relationship m answer).Local)
    (reaches : ports.Reaches agent.routing relationship.mediator.did) :
    ∃ posted, ((agent.asking request rest).run ports w).requests = [posted] := by
  obtain ⟨stamp, there, within⟩ := agent.within_asking ports request held here
  rw [within.requests]
  exact Routing.posts_send packs rfl nofun reaches

theorem steps_pickUpItems (agent : Agent) (limit : UInt32) {taken : Option Nat}
    (taking : taken ≠ some 0) :
    ((agent.pickUpItems limit taken).run ports w).steps =
      ((agent.pickUp limit).run ports w).steps := by
  have attempted := run_attempt (agent.pickUp limit) ports w
  rw [pickUpItems, if_neg taking, run_bind_ok (congrArg Run.result attempted), attempted]
  exact List.append_nil _

theorem posts_pickUpItems (packs : ∀ m s, ∃ envelope, (ports.pack m s).1 = .ok envelope)
    (agent : Agent) (limit : UInt32) {taken : Option Nat} (taking : taken ≠ some 0)
    (held : w.held = some relationship)
    (reaches : ports.Reaches agent.routing relationship.mediator.did) :
    ∃ posted, ((agent.pickUpItems limit taken).run ports w).requests = [posted] := by
  rw [Run.requests, agent.steps_pickUpItems limit taking, agent.pickUp_eq_asking]
  exact agent.posts_asking packs (.delivery limit) held collecting_local reaches

end Agent

end DidMessaging
