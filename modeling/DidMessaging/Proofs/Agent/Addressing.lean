import DidMessaging.Proofs.Agent.Asking
import DidMessaging.Proofs.Agent.Relationship

/-! Whom an agent turns to: the mediator it was made for when it asks for mediation, and afterwards
the mediator it holds. The two are the same as long as no mediator with another DID was stored. -/

namespace DidMessaging

def Effect.PacksFor (did : String) (effect : Effect) : Prop :=
  ∀ m, effect = .pack m → m.hasType .forward = true ∨ m.recipient = some did

theorem Effect.packsFor_of_simple {did : String} {effect : Effect}
    (simple : effect.isSimple = true) : effect.PacksFor did := by
  rintro m rfl
  cases simple

theorem Effect.packsFor_of_sends {did : String} {m : Message} (recipient : m.recipient = some did)
    {effect : Effect} (sends : effect.Sends m) : effect.PacksFor did := by
  rintro packed rfl
  rcases sends with rfl | isForward
  · exact .inr recipient
  · exact .inl isForward

namespace Program

variable {ports : Ports σ} {w : World σ}

/-- All that the program packs in its run from `w` are forwards and messages to `did`. -/
def WritesTo (ports : Ports σ) (w : World σ) (did : String) (p : Program α) : Prop :=
  ∀ m ∈ (p.run ports w).packed, m.hasType .forward = true ∨ m.recipient = some did

def WritesToHeld (ports : Ports σ) (w : World σ) (p : Program α) : Prop :=
  ∀ m ∈ (p.run ports w).packed, m.hasType .forward = true ∨
    ∃ relationship, w.held = some relationship ∧ m.recipient = some relationship.mediator.did

theorem Orderly.writesTo {routing : Routing} {did : String} {allowed : Effect → Prop}
    {p : Program α} {post : α → Prop}
    (orderly : p.Orderly routing (fun m => m.recipient = some did) allowed post) :
    p.WritesTo ports w did := by
  have asks : p.Asks (Effect.PacksFor did) :=
    orderly.asks (fun _ simple _ => Effect.packsFor_of_simple simple) (fun _ _ => nofun)
      (fun _ => nofun) fun _ recipient _ => Effect.packsFor_of_sends recipient
  intro m member
  obtain ⟨⟨effect, answer⟩, present, same⟩ := List.mem_filterMap.1 member
  have allowed := steps_allowed asks ports w _ present
  cases effect with
  | pack => cases same; exact allowed m rfl
  | _ => cases same

theorem writesToHeld_current {f : Relationship → Program α}
    (rest : ∀ relationship w, (f relationship).WritesTo ports w relationship.mediator.did) :
    (Agent.current >>= f).WritesToHeld ports w := by
  obtain ⟨outside, held⟩ := w
  cases held with
  | none =>
      intro m member
      cases member
  | some relationship =>
      intro m member
      rcases rest relationship _ m member with isForward | same
      · exact .inl isForward
      · exact .inr ⟨relationship, rfl, same⟩

theorem packed_exclusively (p : Program α) :
    ((exclusively p).run ports w).packed = (p.run ports w).packed :=
  picks_exclusively rfl rfl

end Program

open Program

namespace Agent

variable {ports : Ports σ} {w : World σ}

theorem writesToHeld_asking (agent : Agent) {request : HostRequest}
    {rest : Relationship → Message → Option (List UInt8) → Program α} {Q : α → Prop}
    (orderly : ∀ (proper : Message → Prop) relationship m answer,
      (rest relationship m answer).Orderly agent.routing proper (fun _ => True) Q) :
    (agent.asking request rest).WritesToHeld ports w := by
  apply writesToHeld_current
  intro relationship w
  exact (agent.orderly_inquire (fun _ _ => trivial) (fun _ recipient => recipient) request
    (orderly _ relationship)).writesTo

theorem writesToHeld_pickUpItems (agent : Agent) (limit : UInt32) (taken : Option Nat) :
    (agent.pickUpItems limit taken).WritesToHeld ports w := by
  by_cases nothing : taken = some 0
  · rw [pickUpItems, if_pos nothing]
    intro m member
    cases member
  · rw [WritesToHeld, Run.packed, agent.steps_pickUpItems limit nothing, agent.pickUp_eq_asking]
    exact agent.writesToHeld_asking fun _ => orderly_collecting fun _ _ => trivial

theorem packed_recover : (recover.run ports w).packed = [] := by
  obtain ⟨body, exclusive, orderly⟩ : ∃ body, recover = exclusively body ∧
      body.Orderly {} (fun _ => False) (fun _ => True) fun _ => True :=
    recover_exclusive (fun _ _ => trivial) fun _ => trivial
  have silent : body.Asks fun effect => ∀ m, effect ≠ .pack m := by
    refine orderly.asks (fun effect simple _ => ?_) (fun _ _ => nofun) (fun _ => nofun)
      fun _ none => none.elim
    rintro m rfl
    cases simple
  rw [exclusive, packed_exclusively]
  apply picks_nothing silent
  intro effect answer other
  cases effect with
  | pack m => exact absurd rfl (other m)
  | _ => rfl

def addressee (agent : Agent) (w : World σ) : Operation → Option String
  | .requestMediation _ => some agent.mediator
  | _ => w.held.map (·.mediator.did)

end Agent

/-- The messages that a deed has written to a mediator: all that it has packed, but for forwards
and for messages that were handed to the agent. -/
def Deed.written (deed : Deed σ) : List Message :=
  match deed.operation with
  | .send _ | .sendAndParse _ | .pack _ | .unpack _ => []
  | _ => deed.run.packed.filter fun m => !m.hasType .forward

namespace Agent

variable {ports : Ports σ} {stored : σ → Option Mediator} {w : World σ}

theorem written_addressee (agent : Agent) (ports : Ports σ) (w : World σ) (operation : Operation) :
    ∀ m ∈ (agent.perform ports w operation).written,
      ∃ did, agent.addressee w operation = some did ∧ m.recipient = some did := by
  intro m member
  have ofHeld {α : Type} {p : Program α} (writes : p.WritesToHeld ports w)
      (own : m ∈ (p.run ports w).packed.filter fun m => !m.hasType .forward) :
      ∃ did, w.held.map (·.mediator.did) = some did ∧ m.recipient = some did := by
    obtain ⟨present, other⟩ := List.mem_filter.1 own
    rcases writes m present with isForward | ⟨relationship, held, same⟩
    · simp [isForward] at other
    · exact ⟨relationship.mediator.did, by rw [held]; rfl, same⟩
  cases operation with
  | send | sendAndParse | pack | unpack => cases member
  | recover =>
      have none : (recover.run ports w).packed = [] := packed_recover
      change m ∈ (recover.run ports w).packed.filter _ at member
      rw [none] at member
      cases member
  | requestMediation host =>
      obtain ⟨present, other⟩ := List.mem_filter.1 member
      obtain ⟨body, exclusive, orderly⟩ := agent.requestMediation_exclusive (fun _ _ => trivial)
        (fun _ => trivial) (fun _ recipient => recipient) (fun _ => trivial) host
      change m ∈ ((agent.requestMediation host).run ports w).packed at present
      rw [exclusive, packed_exclusively] at present
      rcases orderly.writesTo m present with isForward | same
      · simp [isForward] at other
      · exact ⟨agent.mediator, rfl, same⟩
  | register dids =>
      have writes : (agent.register dids).WritesToHeld ports w := by
        rw [agent.register_eq_asking, WritesToHeld, packed_exclusively]
        exact agent.writesToHeld_asking fun _ =>
          orderly_counting (fun _ _ => trivial) (fun _ => trivial) dids
      exact ofHeld writes member
  | pickUp limit taken => exact ofHeld (agent.writesToHeld_pickUpItems limit taken) member
  | acknowledge ids =>
      have writes : (agent.acknowledge ids).WritesToHeld ports w :=
        agent.writesToHeld_asking (Q := fun _ => True) fun _ _ _ _ => .done _ trivial
      exact ofHeld writes member
  | listen endpoint =>
      refine ofHeld (writesToHeld_current fun relationship w => ?_) member
      exact (agent.orderly_listening (fun _ _ => trivial) (fun _ same => same) endpoint).writesTo

/-- The mediator that is stored and the one that is held are the one the agent was made for. -/
structure Loyal (agent : Agent) (stored : σ → Option Mediator) (w : World σ) : Prop where
  stored : ∀ mediator, stored w.outside = some mediator → mediator.did = agent.mediator
  held : ∀ relationship, w.held = some relationship → relationship.mediator.did = agent.mediator

theorem loyal_of_unmoved {agent : Agent} {after : World σ} (loyal : agent.Loyal stored w)
    (unmoved : Unmoved stored w after) : agent.Loyal stored after := by
  constructor
  · intro mediator same
    exact loyal.stored mediator (unmoved.stored.symm.trans same)
  · intro relationship same
    exact loyal.held relationship (unmoved.held.symm.trans same)

theorem moved_loyal {agent : Agent} (contract : StoreContract ports stored) {deed : Deed σ}
    (moved : Moved agent ports stored w deed) (loyal : agent.Loyal stored w) :
    agent.Loyal stored deed.run.world := by
  cases moved with
  | read _ _ unmoved => exact loyal_of_unmoved loyal unmoved
  | failed _ _ _ unmoved => exact loyal_of_unmoved loyal unmoved
  | recalled _ _ _ _ unmoved => exact loyal_of_unmoved loyal unmoved
  | unknown _ _ _ _ unmoved => exact loyal_of_unmoved loyal unmoved
  | adopted run mediator free loaded result held kept =>
      have own : mediator.did = agent.mediator :=
        loyal.stored mediator (contract.loads w.outside _ loaded).symm
      constructor
      · intro other same
        exact loyal.stored other (kept.symm.trans same)
      · intro relationship same
        obtain rfl := Option.some.inj (held.symm.trans same)
        exact own
  | granted host run mediator s did sameHost accepted written result held =>
      constructor
      · intro other same
        have now : stored run.world.outside = some mediator :=
          (congrArg stored written).trans (contract.stores mediator s accepted)
        obtain rfl := Option.some.inj (now.symm.trans same)
        exact did
      · intro relationship same
        obtain rfl := Option.some.inj (held.symm.trans same)
        exact did
  | registered dids run relationship held result extended kept =>
      constructor
      · intro other same
        exact loyal.stored other (kept.symm.trans same)
      · intro later same
        obtain rfl := Option.some.inj (extended.symm.trans same)
        exact loyal.held relationship held

theorem written_loyal {agent : Agent} (loyal : agent.Loyal stored w) (operation : Operation) :
    ∀ m ∈ (agent.perform ports w operation).written, m.recipient = some agent.mediator := by
  intro m member
  obtain ⟨did, turned, same⟩ := agent.written_addressee ports w operation m member
  have own : did = agent.mediator := by
    unfold addressee at turned
    split at turned
    · exact (Option.some.inj turned).symm
    · obtain ⟨relationship, held, rfl⟩ := Option.map_eq_some_iff.1 turned
      exact loyal.held relationship held
  rw [same, own]

/-- An agent that holds and finds no mediator but its own turns to no other. -/
theorem performAll_loyal (agent : Agent) (contract : StoreContract ports stored)
    (operations : List Operation) (loyal : agent.Loyal stored w) :
    ∀ deed ∈ agent.performAll ports operations w,
      (∀ m ∈ deed.written, m.recipient = some agent.mediator) ∧
        agent.Loyal stored deed.run.world := by
  induction operations generalizing w with
  | nil =>
      intro deed member
      cases member
  | cons operation operations ih =>
      intro deed member
      have moved := agent.perform_moved contract.toStoreKept w operation
      have after := moved_loyal contract moved loyal
      rcases List.mem_cons.1 member with rfl | later
      · exact ⟨written_loyal loyal operation, after⟩
      · exact ih after deed later

/-- Whom an agent turns to depends on what was stored. It asks the mediator it was made for to
mediate, and writes to the one that it holds otherwise; and so it turns to no other in any series of
operations exactly if none with another DID was stored at first, provided that the store can be
read. -/
theorem turns_to_own_iff (agent : Agent) (contract : StoreContract ports stored) (s : σ)
    (readable : ∃ found, (ports.loadMediator s).1 = .ok found) :
    (∀ (w : World σ) operation, ∀ m ∈ (agent.perform ports w operation).written,
      ∃ did, agent.addressee w operation = some did ∧ m.recipient = some did) ∧
    ((∀ operations, ∀ deed ∈ agent.performAll ports operations ⟨s, none⟩,
      (∀ m ∈ deed.written, m.recipient = some agent.mediator) ∧
        ∀ relationship, deed.run.world.held = some relationship →
          relationship.mediator.did = agent.mediator) ↔
      ∀ mediator, stored s = some mediator → mediator.did = agent.mediator) := by
  refine ⟨agent.written_addressee ports, ?_, ?_⟩
  · intro always mediator present
    obtain ⟨found, loaded⟩ := readable
    obtain rfl : found = some mediator := (contract.loads s found loaded).trans present
    have booted : (recover.run ports ⟨s, none⟩).result = .ok (some mediator) := by
      rw [recover, run_exclusively]
      change ((core (ports.loadMediator s).1 >>= _ : Program _).run ports _).result = _
      rw [loaded]
      rfl
    have adopted := (recover_fresh contract s _ booted).2
    rw [present] at adopted
    exact (always [.recover] _ List.mem_cons_self).2 ⟨mediator, 0⟩ adopted
  · intro own operations deed member
    have start : agent.Loyal stored (⟨s, none⟩ : World σ) := ⟨own, nofun⟩
    obtain ⟨written, after⟩ := performAll_loyal agent contract operations start deed member
    exact ⟨written, after.held⟩

end Agent

def recordedState : SandboxState where
  stored := some ⟨"1", "did:ex:m", "did:ex:a", "did:ex:r"⟩

theorem recorded_turns_to_own_iff :
    let ports := relayedSandbox.ports "id" "now"
    let own : Agent := { mediator := "did:ex:m" }
    let other : Agent := { mediator := "did:ex:n" }
    (∃ found, (ports.loadMediator recordedState).1 = .ok found) ∧
    (∀ operations, ∀ deed ∈ own.performAll ports operations ⟨recordedState, none⟩,
      ∀ m ∈ deed.written, m.recipient = some "did:ex:m") ∧
    ¬∀ operations, ∀ deed ∈ other.performAll ports operations ⟨recordedState, none⟩,
      (∀ m ∈ deed.written, m.recipient = some "did:ex:n") ∧
        ∀ relationship, deed.run.world.held = some relationship →
          relationship.mediator.did = "did:ex:n" := by
  intro ports own other
  have readable : ∃ found, (ports.loadMediator recordedState).1 = .ok found := ⟨_, rfl⟩
  have contract := relayedSandbox.store_contract "id" "now"
  refine ⟨readable, ?_, ?_⟩
  · have keeps := (own.turns_to_own_iff contract recordedState readable).2.2 fun mediator same => by
      obtain rfl := Option.some.inj same
      rfl
    intro operations deed member
    exact (keeps operations deed member).1
  · intro keeps
    have same := (other.turns_to_own_iff contract recordedState readable).2.1 keeps _ rfl
    exact absurd same (by decide)

/-- An agent made for the mediator `did:ex:n` finds the record of `did:ex:m`, holds that mediator
from then on, and has it route for a DID. -/
theorem recorded_mediator_supersedes :
    let agent : Agent := { mediator := "did:ex:n" }
    let deeds := agent.performAll (relayedSandbox.ports "id" "now")
      [.recover, .register ["did:ex:k"]] ⟨recordedState, none⟩
    (∃ deed ∈ deeds, ∃ m ∈ deed.written, m.recipient ≠ some agent.mediator) ∧
      ∃ deed ∈ deeds, ∃ relationship, deed.run.world.held = some relationship ∧
        relationship.mediator.did ≠ agent.mediator := by
  intro agent deeds
  let ports := relayedSandbox.ports "id" "now"
  let recovered := agent.perform ports ⟨recordedState, none⟩ .recover
  let registered := agent.perform ports recovered.run.world (.register ["did:ex:k"])
  have all : deeds = [recovered, registered] := rfl
  have written : registered.written.map (·.recipient) = [some "did:ex:m"] := by decide +kernel
  constructor
  · obtain ⟨m, member, recipient⟩ := List.mem_map.1 (written ▸ List.mem_cons_self)
    refine ⟨registered, by simp [all], m, member, ?_⟩
    rw [recipient]
    decide
  · exact ⟨recovered, by simp [all], ⟨_, 0⟩, rfl, by decide⟩

end DidMessaging
