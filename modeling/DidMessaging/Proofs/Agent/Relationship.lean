import DidMessaging.Agent.Sandbox
import DidMessaging.Proofs.Agent.Operations

namespace DidMessaging

/-- Nothing but a write that succeeds changes what is stored. -/
structure StoreKept (ports : Ports σ) (stored : σ → Option Mediator) : Prop where
  keepsOnFailure : ∀ mediator s e, (ports.storeMediator mediator s).1 = .error e →
    stored (ports.storeMediator mediator s).2 = stored s
  keepsOnReading : ∀ (effect : Effect) (w : World σ), effect.isReading = true →
    stored (ports.answer w effect).2.outside = stored w.outside

/-- A store that also gives out what it holds, and holds what was written. -/
structure StoreContract (ports : Ports σ) (stored : σ → Option Mediator) : Prop
    extends StoreKept ports stored where
  loads : ∀ s found, (ports.loadMediator s).1 = .ok found → found = stored s
  stores : ∀ mediator s, (ports.storeMediator mediator s).1 = .ok () →
    stored (ports.storeMediator mediator s).2 = some mediator

theorem Sandbox.store_contract (sandbox : Sandbox) (id time : String) :
    StoreContract (sandbox.ports id time) SandboxState.stored where
  loads := by
    intro s found loaded
    simp only [ports, load] at loaded
    split at loaded
    · exact (Except.ok.inj loaded).symm
    · cases loaded
  stores := by
    intro mediator s written
    simp only [ports, store] at written ⊢
    split at written
    · rfl
    · cases written
  keepsOnFailure := by
    intro mediator s e failed
    simp only [ports, store] at failed ⊢
    split at failed
    · cases failed
    · rfl
  keepsOnReading := by
    intro effect w reading
    cases effect with
    | exchange request =>
        simp only [Ports.answer, World.answered, ports, exchange]
        split <;> rfl
    | loadMediator =>
        simp only [Ports.answer, World.answered, ports, load]
        split <;> rfl
    | storeMediator mediator => cases reading
    | hold relationship => cases reading
    | _ => rfl

structure Unmoved (stored : σ → Option Mediator) (before after : World σ) : Prop where
  held : after.held = before.held
  stored : stored after.outside = stored before.outside

namespace Program

variable {ports : Ports σ} {stored : σ → Option Mediator}

theorem reading_unmoved {p : Program α} (store : StoreKept ports stored)
    (reading : p.Reading) (w : World σ) : Unmoved stored w (p.run ports w).world := by
  induction p generalizing w with
  | done => exact ⟨rfl, rfl⟩
  | fail => exact ⟨rfl, rfl⟩
  | ask effect next ih =>
      have held : (ports.answer w effect).2.held = w.held := by
        have allowed := reading.1
        cases effect <;> first | rfl | cases allowed
      have kept := store.keepsOnReading effect w reading.1
      have later := ih (ports.answer w effect).1 (reading.2 _) (ports.answer w effect).2
      exact ⟨later.held.trans held, later.stored.trans kept⟩

theorem reading_bind_leads {p : Program α} {f : α → Program β} {start w : World σ}
    {post : Except AgentError β → World σ → Prop} (store : StoreKept ports stored)
    (unmoved : Unmoved stored start w) (reading : p.Reading)
    (stops : ∀ e after, Unmoved stored start after → post (.error e) after)
    (goes : ∀ a after, Unmoved stored start after → (f a).Leads ports post after) :
    (p >>= f).Leads ports post w := by
  have here := reading_unmoved store reading w
  have still : Unmoved stored start (p.run ports w).world :=
    ⟨here.held.trans unmoved.held, here.stored.trans unmoved.stored⟩
  apply leads_bind.2
  unfold Leads
  cases (p.run ports w).result with
  | ok a => exact goes a _ still
  | error e => exact stops e _ still

end Program

def Deed.granted? : Deed σ → Option Mediator
  | ⟨.requestMediation _, run⟩ => run.result.toOption
  | _ => none

theorem Deed.granted?_of_reading {deed : Deed σ} (reading : deed.operation.isReading = true) :
    deed.granted? = none := by
  obtain ⟨operation, run⟩ := deed
  cases operation <;> first | rfl | cases reading

theorem Deed.granted?_of_error {deed : Deed σ} {e : AgentError}
    (failed : deed.run.result = .error e) : deed.granted? = none := by
  obtain ⟨operation, run⟩ := deed
  cases operation <;> first | rfl | exact congrArg Except.toOption failed

/-- What an operation can do to the relationship of `w`. -/
inductive Moved (agent : Agent) (ports : Ports σ) (stored : σ → Option Mediator) (w : World σ) :
    Deed σ → Prop where
  | read (deed : Deed σ) (reading : deed.operation.isReading = true)
      (unmoved : Unmoved stored w deed.run.world) : Moved agent ports stored w deed
  | failed (deed : Deed σ) (error : AgentError) (result : deed.run.result = .error error)
      (unmoved : Unmoved stored w deed.run.world) : Moved agent ports stored w deed
  | recalled (run : Run σ (Option Mediator)) (relationship : Relationship)
      (held : w.held = some relationship) (result : run.result = .ok (some relationship.mediator))
      (unmoved : Unmoved stored w run.world) : Moved agent ports stored w ⟨.recover, run⟩
  | unknown (run : Run σ (Option Mediator)) (free : w.held = none)
      (loaded : (ports.loadMediator w.outside).1 = .ok none) (result : run.result = .ok none)
      (unmoved : Unmoved stored w run.world) : Moved agent ports stored w ⟨.recover, run⟩
  | adopted (run : Run σ (Option Mediator)) (mediator : Mediator) (free : w.held = none)
      (loaded : (ports.loadMediator w.outside).1 = .ok (some mediator))
      (result : run.result = .ok (some mediator)) (held : run.world.held = some ⟨mediator, 0⟩)
      (kept : stored run.world.outside = stored w.outside) :
      Moved agent ports stored w ⟨.recover, run⟩
  | granted (host : String) (run : Run σ Mediator) (mediator : Mediator) (s : σ)
      (did : mediator.did = agent.mediator) (sameHost : mediator.host = host)
      (accepted : (ports.storeMediator mediator s).1 = .ok ())
      (written : run.world.outside = (ports.storeMediator mediator s).2)
      (result : run.result = .ok mediator) (held : run.world.held = some ⟨mediator, 0⟩) :
      Moved agent ports stored w ⟨.requestMediation host, run⟩
  | registered (dids : List String) (run : Run σ Unit) (relationship : Relationship)
      (held : w.held = some relationship) (result : run.result = .ok ())
      (extended : run.world.held =
        some { relationship with registered := relationship.registered + dids.length })
      (kept : stored run.world.outside = stored w.outside) :
      Moved agent ports stored w ⟨.register dids, run⟩

namespace Agent

open Program

variable {ports : Ports σ} {stored : σ → Option Mediator} {w : World σ}

theorem recover_moved (agent : Agent) (store : StoreKept ports stored) (w : World σ) :
    Moved agent ports stored w ⟨.recover, recover.run ports w⟩ := by
  let post (outcome : Except AgentError (Option Mediator)) (after : World σ) : Prop :=
    ∀ steps, Moved agent ports stored w ⟨.recover, ⟨outcome, after, steps⟩⟩
  suffices leads : recover.Leads ports post w from leads _
  apply leads_exclusively.2
  obtain ⟨outside, held⟩ := w
  cases held with
  | some relationship => exact fun _ => .recalled _ relationship rfl rfl ⟨rfl, rfl⟩
  | none =>
      have kept : stored (ports.loadMediator outside).2 = stored outside :=
        store.keepsOnReading .loadMediator ⟨outside, none⟩ rfl
      show (core (ports.loadMediator outside).1 >>= _).Leads ports post
        ⟨(ports.loadMediator outside).2, none⟩
      rcases loaded : (ports.loadMediator outside).1 with e | _ | mediator
      · exact fun _ => .failed _ (.core e) rfl ⟨rfl, kept⟩
      · exact fun _ => .unknown _ rfl loaded rfl ⟨rfl, kept⟩
      · exact fun _ => .adopted _ mediator rfl loaded rfl rfl kept

theorem requestMediation_moved (agent : Agent) (store : StoreKept ports stored)
    (w : World σ) (host : String) :
    Moved agent ports stored w
      ⟨.requestMediation host, (agent.requestMediation host).run ports w⟩ := by
  let post (outcome : Except AgentError Mediator) (after : World σ) : Prop :=
    ∀ steps, Moved agent ports stored w ⟨.requestMediation host, ⟨outcome, after, steps⟩⟩
  suffices leads : (agent.requestMediation host).Leads ports post w from leads _
  have failed (e : AgentError) (after : World σ) (unmoved : Unmoved stored w after) :
      post (.error e) after := fun _ => .failed _ e rfl unmoved
  apply leads_exclusively.2
  -- Up to the write the program only reads, so that wherever it fails nothing has moved.
  apply reading_bind_leads store ⟨rfl, rfl⟩ (requestMessage_asks rfl rfl) failed
  intro m w₁ unmoved
  have answer : (agent.routing.sendAndParse m).Reading :=
    Operation.program_reading agent (.sendAndParse m) rfl
  apply reading_bind_leads store unmoved answer failed
  intro response w₂ unmoved
  apply reading_bind_leads store unmoved (readGrant_asks fun _ => rfl) failed
  intro grant w₃ unmoved
  apply reading_bind_leads store unmoved (asks_perform rfl) failed
  intro id w₄ unmoved
  let mediator : Mediator := ⟨id, agent.mediator, host, grant.routingDid⟩
  have kept := store.keepsOnFailure mediator w₄.outside
  show (core (ports.storeMediator mediator w₄.outside).1 >>= _).Leads ports post
    ⟨(ports.storeMediator mediator w₄.outside).2, w₄.held⟩
  cases outcome : (ports.storeMediator mediator w₄.outside).1 with
  | error e => exact failed (.core e) _ ⟨unmoved.held, (kept e outcome).trans unmoved.stored⟩
  | ok => exact fun _ => .granted host _ mediator w₄.outside rfl rfl outcome rfl rfl rfl

theorem register_moved (agent : Agent) (store : StoreKept ports stored) (w : World σ)
    (dids : List String) :
    Moved agent ports stored w ⟨.register dids, (agent.register dids).run ports w⟩ := by
  let post (outcome : Except AgentError Unit) (after : World σ) : Prop :=
    ∀ steps, Moved agent ports stored w ⟨.register dids, ⟨outcome, after, steps⟩⟩
  suffices leads : (agent.register dids).Leads ports post w from leads _
  have failed (e : AgentError) (after : World σ) (unmoved : Unmoved stored w after) :
      post (.error e) after := fun _ => .failed _ e rfl unmoved
  apply leads_exclusively.2
  obtain ⟨outside, held⟩ := w
  cases held with
  | none => exact failed .noMediator _ ⟨rfl, rfl⟩
  | some relationship =>
      show (requestMessage _ _ _ >>= _).Leads ports post ⟨outside, some relationship⟩
      apply reading_bind_leads store ⟨rfl, rfl⟩ (requestMessage_asks rfl rfl) failed
      intro m w₁ unmoved
      have answer : (agent.routing.send m).Reading :=
        Operation.program_reading agent (.send m) rfl
      apply reading_bind_leads store unmoved answer failed
      intro _ w₂ unmoved
      exact fun _ => .registered dids _ relationship rfl rfl rfl unmoved.stored

/-- Whatever is asked of an agent, the relationship makes one of the moves. -/
theorem perform_moved (agent : Agent) (store : StoreKept ports stored) (w : World σ)
    (operation : Operation) : Moved agent ports stored w (agent.perform ports w operation) := by
  cases operation with
  | recover => exact agent.recover_moved store w
  | requestMediation host => exact agent.requestMediation_moved store w host
  | register dids => exact agent.register_moved store w dids
  | _ => exact .read _ rfl (reading_unmoved store (Operation.program_reading agent _ rfl) w)

end Agent

def grantingSandbox : Sandbox where
  documents := [⟨"did:ex:m", [⟨"#m", ["DIDCommMessaging"], { uri := "https://m" }⟩]⟩]
  codec.pack _ := .ok "sealed"
  codec.unpack _ := .ok
    (Message.make MessageType.mediationGrant.uri (Grant.shape.render ⟨"did:ex:r"⟩) ⟨"g", "now"⟩)

def refusingOnce : SandboxState where
  replies := [.response ⟨200, [65]⟩, .response ⟨200, [65]⟩]
  stored := some ⟨"old", "did:ex:m", "did:ex:h", "did:ex:o"⟩
  storeFailures := 1

theorem Run.failed_of_toOption {run : Run σ α} (unsuccessful : run.result.toOption = none) :
    ∃ e, run.result = .error e := by
  cases result : run.result with
  | ok a => rw [result] at unsuccessful; cases unsuccessful
  | error e => exact ⟨e, rfl⟩

section Invisible

variable {ports : Ports σ} {stored : σ → Option Mediator}

theorem unmoved_of_idle {agent : Agent} (store : StoreKept ports stored) {w : World σ}
    {operation : Operation} (idle : operation.isReading = true ∨
      ∃ e, (agent.perform ports w operation).run.result = .error e) :
    Unmoved stored w (agent.perform ports w operation).run.world := by
  have moved := agent.perform_moved store w operation
  have same : (agent.perform ports w operation).operation = operation := rfl
  generalize agent.perform ports w operation = deed at moved same idle
  subst same
  have quiet {result} (succeeded : deed.run.result = .ok result) :
      deed.operation.isReading = true := by
    rcases idle with reading | ⟨e, failed⟩
    · exact reading
    · cases succeeded.symm.trans failed
  cases moved with
  | read _ reading unmoved => exact unmoved
  | failed _ e result unmoved => exact unmoved
  | recalled _ _ _ _ unmoved => exact unmoved
  | unknown _ _ _ _ unmoved => exact unmoved
  | adopted run mediator free loaded result => cases quiet result
  | granted host run mediator s did sameHost accepted written result => cases quiet result
  | registered dids run relationship held result => cases quiet result

theorem storeKept_unseen (ports : Ports σ) : StoreKept ports fun _ => none :=
  ⟨fun _ _ _ _ => rfl, fun _ _ _ => rfl⟩

/-- An operation that fails, at whatever step, or that only reads changes neither the mediator that
is held, the count of registered DIDs nor the state that is reported, whatever the world does. Nor
does it change the stored mediator, if nothing but a write that succeeds changes that. -/
theorem failed_or_reading_unmoved (agent : Agent) (ports : Ports σ) (w : World σ)
    (operation : Operation)
    (idle : operation.isReading = true ∨
      ∃ e, (agent.perform ports w operation).run.result = .error e) :
    let after := (agent.perform ports w operation).run.world
    after.held = w.held ∧
      RelationshipState.ofHeld after.held = RelationshipState.ofHeld w.held ∧
      ∀ stored : σ → Option Mediator, StoreKept ports stored →
        stored after.outside = stored w.outside := by
  intro after
  -- What is held does not depend on the store, so that any store will do for it.
  have held : after.held = w.held := (unmoved_of_idle (storeKept_unseen ports) idle).held
  exact ⟨held, congrArg _ held, fun stored store => (unmoved_of_idle store idle).stored⟩

theorem refused_write_unmoved :
    let old : Mediator := ⟨"old", "did:ex:m", "did:ex:h", "did:ex:o"⟩
    let deed := Agent.perform { mediator := "did:ex:m" } (grantingSandbox.ports "id" "now")
      ⟨refusingOnce, some ⟨old, 2⟩⟩ (.requestMediation "did:ex:h")
    deed.run.requests.length = 1 ∧ (∃ e, deed.run.result = .error e) ∧
      deed.run.world.held = some ⟨old, 2⟩ ∧
      RelationshipState.ofHeld deed.run.world.held = .active 2 ∧
      deed.run.world.outside.stored = some old := by
  intro old deed
  have sent : deed.run.requests.length = 1 := by decide +kernel
  have refused : ∃ e, deed.run.result = .error e := Run.failed_of_toOption (by decide +kernel)
  have unmoved := failed_or_reading_unmoved { mediator := "did:ex:m" }
    (grantingSandbox.ports "id" "now") ⟨refusingOnce, some ⟨old, 2⟩⟩ (.requestMediation "did:ex:h")
  have same : Agent.perform { mediator := "did:ex:m" } (grantingSandbox.ports "id" "now")
      ⟨refusingOnce, some ⟨old, 2⟩⟩ (.requestMediation "did:ex:h") = deed := rfl
  rw [same] at unmoved
  clear_value deed
  obtain ⟨held, state, stored⟩ := unmoved (.inr refused)
  have kept := stored _ (grantingSandbox.store_contract "id" "now").toStoreKept
  exact ⟨sent, refused, held, state, kept⟩

def losingPorts : Ports SandboxState :=
  { grantingSandbox.ports "id" "now" with
    storeMediator := fun _ s => (.error (.storage "store failed"), { s with stored := none }) }

/-- Over such a store a request for mediation fails and yet changes what is stored. -/
theorem losing_store_moved :
    let old : Mediator := ⟨"old", "did:ex:m", "did:ex:h", "did:ex:o"⟩
    let agent : Agent := { mediator := "did:ex:m" }
    let booted := agent.perform losingPorts ⟨refusingOnce, none⟩ .recover
    let refused := agent.perform losingPorts booted.run.world (.requestMediation "did:ex:h")
    booted.run.world.held = some ⟨old, 0⟩ ∧ booted.run.world.outside.stored = some old ∧
      (∃ e, refused.run.result = .error e) ∧ refused.run.world.held = some ⟨old, 0⟩ ∧
      refused.run.world.outside.stored = none := by
  intro old agent booted refused
  have failed : ∃ e, refused.run.result = .error e := Run.failed_of_toOption (by decide +kernel)
  exact ⟨rfl, rfl, failed, by decide +kernel, by decide +kernel⟩

end Invisible

def lastGranted (deeds : List (Deed σ)) : Option Mediator := deeds.reverse.findSome? Deed.granted?

theorem lastGranted_cons (deed : Deed σ) (deeds : List (Deed σ)) :
    lastGranted (deed :: deeds) = (lastGranted deeds).or deed.granted? := by
  simp [lastGranted]

structure Settled (stored : σ → Option Mediator) (content : Option Mediator) (w : World σ) :
    Prop where
  stored : stored w.outside = content
  held : ∀ relationship, w.held = some relationship → content = some relationship.mediator

section Durable

variable {ports : Ports σ} {stored : σ → Option Mediator} {content : Option Mediator} {w : World σ}

theorem settled_of_unmoved {after : World σ} (settled : Settled stored content w)
    (unmoved : Unmoved stored w after) : Settled stored content after :=
  ⟨unmoved.stored.trans settled.stored, fun relationship held =>
    settled.held relationship (unmoved.held ▸ held)⟩

theorem moved_settled {agent : Agent} (contract : StoreContract ports stored) {deed : Deed σ}
    (moved : Moved agent ports stored w deed) (settled : Settled stored content w) :
    Settled stored (deed.granted?.or content) deed.run.world := by
  cases moved with
  | read deed reading unmoved =>
      rw [Deed.granted?_of_reading reading]
      exact settled_of_unmoved settled unmoved
  | failed deed e result unmoved =>
      rw [Deed.granted?_of_error result]
      exact settled_of_unmoved settled unmoved
  | recalled run relationship held result unmoved => exact settled_of_unmoved settled unmoved
  | unknown run free loaded result unmoved => exact settled_of_unmoved settled unmoved
  | adopted run mediator free loaded result held kept =>
      refine ⟨kept.trans settled.stored, fun relationship same => ?_⟩
      obtain rfl := Option.some.inj (held.symm.trans same)
      exact settled.stored.symm.trans (contract.loads w.outside _ loaded).symm
  | granted host run mediator s did sameHost accepted written result held =>
      have granted : Deed.granted? ⟨.requestMediation host, run⟩ = some mediator :=
        congrArg Except.toOption result
      rw [granted]
      refine ⟨(congrArg stored written).trans (contract.stores mediator s accepted), ?_⟩
      intro relationship same
      obtain rfl := Option.some.inj (held.symm.trans same)
      rfl
  | registered dids run relationship held result extended kept =>
      refine ⟨kept.trans settled.stored, fun later same => ?_⟩
      obtain rfl := Option.some.inj (extended.symm.trans same)
      exact settled.held relationship held

/-- The invariant of a run: what was granted last, or else was stored at first, is stored and
held. -/
theorem performAll_settled (agent : Agent) (contract : StoreContract ports stored)
    (operations : List Operation) (settled : Settled stored content w)
    (before after : List (Deed σ)) (deed : Deed σ)
    (split : agent.performAll ports operations w = before ++ deed :: after) :
    Settled stored ((lastGranted (before ++ [deed])).or content) deed.run.world := by
  induction operations generalizing w content before with
  | nil => cases before <;> cases split
  | cons operation operations ih =>
      have moved := agent.perform_moved contract.toStoreKept w operation
      have first := moved_settled contract moved settled
      cases before with
      | nil =>
          obtain ⟨rfl, -⟩ := List.cons.inj split
          simpa [lastGranted] using first
      | cons head before =>
          obtain ⟨rfl, rest⟩ := List.cons.inj split
          have later := ih first before rest
          rwa [List.cons_append, lastGranted_cons, Option.or_assoc]

theorem recover_fresh (contract : StoreContract ports stored) (s : σ) (found : Option Mediator)
    (booted : (Agent.recover.run ports ⟨s, none⟩).result = .ok found) :
    found = stored s ∧
      (Agent.recover.run ports ⟨s, none⟩).world.held =
        (stored s).map fun mediator => ⟨mediator, 0⟩ := by
  have moved := Agent.recover_moved ⟨{}, ""⟩ contract.toStoreKept (⟨s, none⟩ : World σ)
  generalize Agent.recover.run ports ⟨s, none⟩ = run at moved booted
  cases moved with
  | read _ reading => cases reading
  | failed _ e result => cases result.symm.trans booted
  | recalled _ relationship held => cases held
  | unknown _ free loaded result unmoved =>
      rw [← contract.loads s none loaded]
      exact ⟨(Except.ok.inj (result.symm.trans booted)).symm, unmoved.held⟩
  | adopted _ mediator free loaded result held =>
      rw [← contract.loads s (some mediator) loaded]
      exact ⟨(Except.ok.inj (result.symm.trans booted)).symm, held⟩

/-- After every step of every series of operations of a new agent, whatever fails on the way: the
store holds the mediator that was granted last, or else what it held at first; a mediator that is
held is the stored one; and a new agent that recovers from the store takes up that very mediator as
granted, or remains without one if nothing is stored. -/
theorem relationship_durable (agent : Agent) (contract : StoreContract ports stored) (s : σ)
    (operations : List Operation) (before after : List (Deed σ)) (deed : Deed σ)
    (split : agent.performAll ports operations ⟨s, none⟩ = before ++ deed :: after) :
    let content := (lastGranted (before ++ [deed])).or (stored s)
    let now := deed.run.world
    stored now.outside = content ∧
    (∀ relationship, now.held = some relationship →
      stored now.outside = some relationship.mediator) ∧
    ∀ found, (Agent.recover.run ports ⟨now.outside, none⟩).result = .ok found →
      let fresh := (Agent.recover.run ports ⟨now.outside, none⟩).world
      found = content ∧ fresh.held.map (·.mediator) = content ∧
      RelationshipState.ofHeld fresh.held = if content.isSome then .granted else .unknown := by
  have start : Settled stored (stored s) (⟨s, none⟩ : World σ) :=
    ⟨rfl, fun relationship held => by cases held⟩
  have settled := performAll_settled agent contract operations start before after deed split
  refine ⟨settled.stored, fun relationship held => ?_, fun found booted => ?_⟩
  · exact settled.stored.trans (settled.held relationship held)
  · obtain ⟨same, held⟩ := recover_fresh contract deed.run.world.outside found booted
    rw [settled.stored] at same held
    refine ⟨same, ?_, ?_⟩
    · rw [held]
      cases (lastGranted (before ++ [deed])).or (stored s) <;> rfl
    · rw [held]
      cases (lastGranted (before ++ [deed])).or (stored s) <;> rfl

theorem relationship_durable_after_refusal :
    let agent : Agent := { mediator := "did:ex:m" }
    let ports := grantingSandbox.ports "id" "now"
    let refused := agent.perform ports ⟨refusingOnce, none⟩ (.requestMediation "did:ex:h")
    let granted := agent.perform ports refused.run.world (.requestMediation "did:ex:h")
    let fresh := Agent.recover.run ports ⟨granted.run.world.outside, none⟩
    let mediator : Mediator := ⟨"id", "did:ex:m", "did:ex:h", "did:ex:r"⟩
    agent.performAll ports [.requestMediation "did:ex:h", .requestMediation "did:ex:h"]
      ⟨refusingOnce, none⟩ = [refused] ++ granted :: [] ∧
    refused.granted? = none ∧ granted.granted? = some mediator ∧
    granted.run.world.outside.stored = some mediator ∧
    fresh.result = .ok (some mediator) ∧ fresh.world.held.map (·.mediator) = some mediator := by
  intro agent ports refused granted fresh mediator
  have nothing : refused.granted? = none := by decide +kernel
  have grants : granted.granted? = some mediator := by decide +kernel
  have recovered : fresh.result.toOption = some (some mediator) := by decide +kernel
  have booted : fresh.result = .ok (some mediator) := by
    cases result : fresh.result with
    | ok found => rw [result] at recovered; exact congrArg _ (Option.some.inj recovered)
    | error e => rw [result] at recovered; cases recovered
  have split : agent.performAll ports [.requestMediation "did:ex:h", .requestMediation "did:ex:h"]
      ⟨refusingOnce, none⟩ = [refused] ++ granted :: [] := rfl
  have durable := relationship_durable agent (grantingSandbox.store_contract "id" "now")
    refusingOnce _ _ _ _ split
  have same : Agent.recover.run (grantingSandbox.ports "id" "now")
      ⟨granted.run.world.outside, none⟩ = fresh := rfl
  have content : (lastGranted ([refused] ++ [granted])).or refusingOnce.stored = some mediator := by
    simp [lastGranted, grants]
  simp only [same, content] at durable
  clear_value fresh granted
  obtain ⟨stored, -, again⟩ := durable
  exact ⟨split, nothing, grants, stored, booted, (again _ booted).2.1⟩

end Durable

end DidMessaging
