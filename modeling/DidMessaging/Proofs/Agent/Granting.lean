import DidMessaging.Proofs.Agent.Answers
import DidMessaging.Proofs.Agent.Asking
import DidMessaging.Proofs.Agent.Relationship

namespace DidMessaging

open Program

def Ports.Grants (ports : Ports σ) (s : σ) (body : List UInt8) (grant : Grant) (later : σ) : Prop :=
  ∃ m, ports.Opens s body m later ∧ m.type = MessageType.mediationGrant.uri ∧
    Grant.shape.parse m.body = .ok grant

theorem Grant.ofMessage_eq_ok {m : Message} {grant : Grant} :
    ofMessage m = .ok grant ↔
      m.type = MessageType.mediationGrant.uri ∧ shape.parse m.body = .ok grant := by
  by_cases typed : m.type = MessageType.mediationGrant.uri
  · have known : m.hasType .mediationGrant = true := decide_eq_true typed
    rw [ofMessage, if_pos known]
    cases shape.parse m.body <;> simp [Except.mapError, typed]
  · have unknown : ¬m.hasType .mediationGrant = true := by simpa [Message.hasType] using typed
    rw [ofMessage, if_neg unknown]
    simp [typed]

theorem Ports.grants_unique {ports : Ports σ} {s later later' : σ} {body : List UInt8}
    {grant grant' : Grant} (grants : ports.Grants s body grant later)
    (again : ports.Grants s body grant' later') : grant = grant' ∧ later = later' := by
  obtain ⟨m, opened, -, parsed⟩ := grants
  obtain ⟨m', opened', -, parsed'⟩ := again
  obtain ⟨rfl, rfl⟩ := opens_unique opened opened'
  exact ⟨Except.ok.inj (parsed.symm.trans parsed'), rfl⟩

namespace Agent

variable {ports : Ports σ} {w : World σ}

def readAnswer (mediator : String) (m : Message) (answer : Option (List UInt8)) :
    Program Grant := do
  readGrant mediator (← answered m answer)

def settle (agent : Agent) (host : String) (grant : Grant) : Program Mediator := do
  let mediator : Mediator := ⟨← Program.perform .freshId, agent.mediator, host, grant.routingDid⟩
  core (← Program.perform (.storeMediator mediator))
  log (.granted mediator.did mediator.routingDid)
  Program.perform (.hold ⟨mediator, 0⟩)
  return mediator

theorem requestMediation_eq (agent : Agent) (host : String) :
    agent.requestMediation host = exclusively
      (requestMessage .mediation host agent.mediator >>= fun m =>
        agent.routing.send m >>= fun answer =>
          readAnswer agent.mediator m answer >>= agent.settle host) := by
  simp only [requestMediation, Routing.sendAndParse, readAnswer, LawfulMonad.bind_assoc]
  rfl

theorem run_readAnswer (mediator : String) (m : Message) (answer : Option (List UInt8)) :
    let run := (readAnswer mediator m answer).run ports w
    (∃ body grant, answer = some body ∧
        ports.Grants w.outside body grant run.world.outside ∧ run.result = .ok grant) ∨
      run.result = .error .noMediator ∧
        ∀ body grant later, answer = some body → ¬ports.Grants w.outside body grant later := by
  cases answer with
  | none => exact .inr ⟨rfl, nofun⟩
  | some body =>
      have split : readAnswer mediator m (some body) =
          Routing.readResponse m.id body >>= readGrant mediator := rfl
      rw [split]
      rcases Routing.run_readResponse ports m.id body w with
        ⟨response, opened, read⟩ | ⟨read, unread⟩
      · rw [run_bind_ok read]
        cases granted : Grant.ofMessage { response with direction := .received } with
        | ok grant =>
            simp only [readGrant, granted]
            exact .inl ⟨body, grant, rfl, ⟨response, opened, Grant.ofMessage_eq_ok.1 granted⟩, rfl⟩
        | error e =>
            simp only [readGrant, granted]
            refine .inr ⟨rfl, ?_⟩
            rintro _ grant later ⟨⟩ ⟨other, found, granting⟩
            obtain ⟨rfl, -⟩ := Ports.opens_unique opened found
            have known : Grant.ofMessage { response with direction := .received } = .ok grant :=
              Grant.ofMessage_eq_ok.2 granting
            cases granted.symm.trans known
      · rw [run_bind_ok read]
        refine .inr ⟨rfl, ?_⟩
        rintro _ grant later ⟨⟩ ⟨response, opened, -⟩
        exact unread response later opened

theorem run_settle (agent : Agent) (ports : Ports σ) (host : String) (grant : Grant) (w : World σ) :
    let id := ports.freshId w.outside
    let mediator : Mediator := ⟨id.1, agent.mediator, host, grant.routingDid⟩
    let storing := ports.storeMediator mediator id.2
    let run := (agent.settle host grant).run ports w
    (∀ e, storing.1 = .error e → run.result = .error (.core e)) ∧
      (storing.1 = .ok () → run.result = .ok mediator ∧
        run.world = ⟨storing.2, some ⟨mediator, 0⟩⟩) := by
  intro id mediator storing run
  let rest : Program Mediator := do
    core storing.1
    log (.granted mediator.did mediator.routingDid)
    Program.perform (.hold ⟨mediator, 0⟩)
    return mediator
  have split : run = ((rest.run ports { w with outside := storing.2 }).after
      ⟨.storeMediator mediator, storing.1⟩).after ⟨.freshId, id.1⟩ := rfl
  rw [split]
  unfold rest
  cases storing.1 with
  | error e => exact ⟨fun _ same => by cases same; rfl, nofun⟩
  | ok => exact ⟨nofun, fun _ => ⟨rfl, rfl⟩⟩

/-- The answer that came of sending grants `mediator`, which is to be stored in the state `s`. -/
def Granted (agent : Agent) (ports : Ports σ) (host : String)
    (sending : Run σ (Option (List UInt8))) (mediator : Mediator) (s : σ) : Prop :=
  ∃ body grant opened, sending.result = .ok (some body) ∧
    ports.Grants sending.world.outside body grant opened ∧
    mediator = ⟨(ports.freshId opened).1, agent.mediator, host, grant.routingDid⟩ ∧
    s = (ports.freshId opened).2

/-- How a request for mediation ends, by what came of sending it. -/
inductive Mediation (agent : Agent) (ports : Ports σ) (host : String)
    (sending : Run σ (Option (List UInt8))) (run : Run σ Mediator) : Prop where
  | unsent (e : AgentError) (failed : sending.result = .error e) (result : run.result = .error e)
  | refused (answer : Option (List UInt8)) (sent : sending.result = .ok answer)
      (nothing : ∀ mediator s, ¬agent.Granted ports host sending mediator s)
      (result : run.result = .error .noMediator)
  | unstored (mediator : Mediator) (s : σ) (e : Error)
      (granted : agent.Granted ports host sending mediator s)
      (failed : (ports.storeMediator mediator s).1 = .error e)
      (result : run.result = .error (.core e))
  | stored (mediator : Mediator) (s : σ) (granted : agent.Granted ports host sending mediator s)
      (accepted : (ports.storeMediator mediator s).1 = .ok ()) (result : run.result = .ok mediator)
      (world : run.world = ⟨(ports.storeMediator mediator s).2, some ⟨mediator, 0⟩⟩)

theorem granted_unique {agent : Agent} {host : String} {sending : Run σ (Option (List UInt8))}
    {mediator mediator' : Mediator} {s s' : σ}
    (granted : agent.Granted ports host sending mediator s)
    (again : agent.Granted ports host sending mediator' s') : mediator = mediator' ∧ s = s' := by
  obtain ⟨body, grant, opened, answer, grants, rfl, rfl⟩ := granted
  obtain ⟨body', grant', opened', answer', grants', rfl, rfl⟩ := again
  obtain rfl : body = body' := by simpa using answer.symm.trans answer'
  obtain ⟨rfl, rfl⟩ := Ports.grants_unique grants grants'
  exact ⟨rfl, rfl⟩

theorem not_granted_of_unsent {agent : Agent} {host : String}
    {sending : Run σ (Option (List UInt8))} {e : AgentError} (unsent : sending.result = .error e)
    (mediator : Mediator) (s : σ) : ¬agent.Granted ports host sending mediator s := by
  rintro ⟨body, grant, opened, sent, -⟩
  cases unsent.symm.trans sent

section Mediation

variable {agent : Agent} {host : String} {sending : Run σ (Option (List UInt8))}
  {run : Run σ Mediator} {mediator : Mediator} {s : σ}

theorem Mediation.result_of_granted (ends : agent.Mediation ports host sending run)
    (granted : agent.Granted ports host sending mediator s) :
    run.result = ((ports.storeMediator mediator s).1.mapError .core).map fun _ => mediator := by
  cases ends with
  | unsent e failed => exact absurd granted (not_granted_of_unsent failed mediator s)
  | refused answer sent nothing => exact absurd granted (nothing mediator s)
  | unstored _ _ e again failed result =>
      obtain ⟨rfl, rfl⟩ := granted_unique granted again
      rw [result, failed]
      rfl
  | stored _ _ again accepted result =>
      obtain ⟨rfl, rfl⟩ := granted_unique granted again
      rw [result, accepted]
      rfl

theorem Mediation.granted_of_ok (ends : agent.Mediation ports host sending run)
    (succeeded : run.result = .ok mediator) :
    ∃ s, agent.Granted ports host sending mediator s ∧ (ports.storeMediator mediator s).1 = .ok () ∧
      run.world = ⟨(ports.storeMediator mediator s).2, some ⟨mediator, 0⟩⟩ := by
  cases ends with
  | unsent e _ result => cases result.symm.trans succeeded
  | refused _ _ _ result => cases result.symm.trans succeeded
  | unstored _ _ e _ _ result => cases result.symm.trans succeeded
  | stored _ s granted accepted result world =>
      cases result.symm.trans succeeded
      exact ⟨s, granted, accepted, world⟩

theorem Mediation.result_of_unsent (ends : agent.Mediation ports host sending run) {e : AgentError}
    (unsent : sending.result = .error e) : run.result = .error e := by
  cases ends with
  | unsent _ failed result =>
      cases failed.symm.trans unsent
      exact result
  | refused answer sent => cases unsent.symm.trans sent
  | unstored mediator s _ granted => exact absurd granted (not_granted_of_unsent unsent mediator s)
  | stored mediator s granted => exact absurd granted (not_granted_of_unsent unsent mediator s)

theorem Mediation.result_of_refused (ends : agent.Mediation ports host sending run)
    {answer : Option (List UInt8)} (sent : sending.result = .ok answer)
    (nothing : ∀ mediator s, ¬agent.Granted ports host sending mediator s) :
    run.result = .error .noMediator := by
  cases ends with
  | unsent e failed => cases failed.symm.trans sent
  | refused _ _ _ result => exact result
  | unstored mediator s _ granted => exact absurd granted (nothing mediator s)
  | stored mediator s granted => exact absurd granted (nothing mediator s)

end Mediation

theorem mediation_requestMediation (agent : Agent) (ports : Ports σ) (w : World σ) (host : String) :
    let id := ports.freshId w.outside
    let created := ports.now id.2
    let m := HostRequest.mediation.message host agent.mediator ⟨id.1, created.1⟩
    let sending := (agent.routing.send m).run ports { w with outside := created.2 }
    agent.Mediation ports host sending ((agent.requestMediation host).run ports w) := by
  intro id created m sending
  have asks : ((requestMessage .mediation host agent.mediator).run ports w).result = .ok m := rfl
  have start : ((requestMessage .mediation host agent.mediator).run ports w).world =
      { w with outside := created.2 } := rfl
  rw [requestMediation_eq, run_exclusively, run_bind_ok asks, start]
  cases sent : sending.result with
  | error e =>
      rw [run_bind_error sent]
      exact .unsent e sent rfl
  | ok answer =>
      rw [run_bind_ok sent]
      rcases run_readAnswer (w := sending.world) agent.mediator m answer with
        ⟨body, grant, rfl, grants, read⟩ | ⟨unread, nothing⟩
      · rw [run_bind_ok read]
        let reading := (readAnswer agent.mediator m (some body)).run ports sending.world
        let fresh := ports.freshId reading.world.outside
        let mediator : Mediator := ⟨fresh.1, agent.mediator, host, grant.routingDid⟩
        have granted : agent.Granted ports host sending mediator fresh.2 :=
          ⟨body, grant, _, sent, grants, rfl, rfl⟩
        obtain ⟨fails, stores⟩ := agent.run_settle ports host grant reading.world
        cases accepted : (ports.storeMediator mediator fresh.2).1 with
        | error e => exact .unstored mediator fresh.2 e granted accepted (fails e accepted)
        | ok =>
            obtain ⟨result, world⟩ := stores accepted
            exact .stored mediator fresh.2 granted accepted result world
      · rw [run_bind_error unread]
        refine .refused answer sent ?_ rfl
        rintro mediator s ⟨body, grant, opened, same, grants, -⟩
        exact nothing body grant opened (Except.ok.inj (sent.symm.trans same)) grants

theorem within_requestMediation (agent : Agent) (ports : Ports σ) (w : World σ) (host : String) :
    let id := ports.freshId w.outside
    let created := ports.now id.2
    let m := HostRequest.mediation.message host agent.mediator ⟨id.1, created.1⟩
    let sending := (agent.routing.send m).run ports { w with outside := created.2 }
    sending.Within ((agent.requestMediation host).run ports w) := by
  intro id created m sending
  have reads (m : Message) (answer : Option (List UInt8)) :
      (readAnswer agent.mediator m answer).Local :=
    asks_bind (answered_local m answer) fun _ => readGrant_asks fun _ => rfl
  have settles (grant : Grant) : (agent.settle host grant).Local := by
    refine asks_bind (asks_perform rfl) fun id => asks_bind (asks_perform rfl) fun outcome => ?_
    refine asks_bind (asks_core outcome) fun _ => ?_
    exact asks_bind (asks_perform rfl) fun _ => asks_bind (asks_perform rfl) fun _ => trivial
  rw [requestMediation_eq]
  apply within_exclusively
  apply within_after_local (requestMessage_asks rfl rfl) rfl
  exact within_before_local fun answer => asks_bind (reads m answer) settles

/-- A request for mediation succeeds exactly on a grant that is stored. Whatever the world is and
does, nothing is requested but where the message is sent. That succeeds if a response comes, and its
answer is the body unless that is empty. The request comes to a mediator exactly if the answer
grants it and the store takes it: it is the one that was asked, it routes for the host as the grant
tells, and from then on it is held as granted, and stored. Otherwise the error is the one of sending
or, with a grant, the one of the store; and in all other cases there is no mediator. -/
theorem mediation_iff_grant_stored (agent : Agent) {ports : Ports σ} {stored : σ → Option Mediator}
    (stores : ∀ mediator s, (ports.storeMediator mediator s).1 = .ok () →
      stored (ports.storeMediator mediator s).2 = some mediator) (w : World σ) (host : String) :
    let id := ports.freshId w.outside
    let created := ports.now id.2
    let m := HostRequest.mediation.message host agent.mediator ⟨id.1, created.1⟩
    let sending := (agent.routing.send m).run ports { w with outside := created.2 }
    let run := (agent.requestMediation host).run ports w
    sending.Within run ∧
    (∀ answer, sending.result = .ok answer ↔ ∃ request response,
      sending.exchanges = [(request, .ok response)] ∧ response.content? = answer) ∧
    (∀ mediator, run.result = .ok mediator ↔ ∃ s,
      agent.Granted ports host sending mediator s ∧ (ports.storeMediator mediator s).1 = .ok ()) ∧
    (∀ mediator, run.result = .ok mediator →
      mediator.host = host ∧ mediator.did = agent.mediator ∧
      run.world.held = some ⟨mediator, 0⟩ ∧
      RelationshipState.ofHeld run.world.held = .granted ∧
      stored run.world.outside = some mediator) ∧
    (∀ e, sending.result = .error e → run.result = .error e) ∧
    (∀ mediator s e, agent.Granted ports host sending mediator s →
      (ports.storeMediator mediator s).1 = .error e → run.result = .error (.core e)) ∧
    ((∃ answer, sending.result = .ok answer) →
      (∀ mediator s, ¬agent.Granted ports host sending mediator s) →
      run.result = .error .noMediator) := by
  intro id created m sending run
  have within : sending.Within run := agent.within_requestMediation ports w host
  have ends : agent.Mediation ports host sending run :=
    agent.mediation_requestMediation ports w host
  refine ⟨within, agent.routing.send_ok_iff m _, fun mediator => ⟨fun succeeded => ?_, ?_⟩,
    fun mediator succeeded => ?_, fun e => ends.result_of_unsent, fun mediator s e granted failed =>
    ?_, fun ⟨answer, sent⟩ => ends.result_of_refused sent⟩
  · obtain ⟨s, granted, accepted, -⟩ := ends.granted_of_ok succeeded
    exact ⟨s, granted, accepted⟩
  · rintro ⟨s, granted, accepted⟩
    rw [ends.result_of_granted granted, accepted]
    rfl
  · obtain ⟨s, ⟨body, grant, opened, -, -, rfl, -⟩, accepted, world⟩ :=
      ends.granted_of_ok succeeded
    rw [world]
    exact ⟨rfl, rfl, rfl, rfl, stores _ s accepted⟩
  · rw [ends.result_of_granted granted, failed]
    rfl

end Agent

theorem granting_mediation_stored :
    let agent : Agent := { mediator := "did:ex:m" }
    let run (s : SandboxState) :=
      (agent.requestMediation "did:ex:h").run (grantingSandbox.ports "id" "now") ⟨s, none⟩
    let willing := { refusingOnce with storeFailures := 0 }
    let mediator : Mediator := ⟨"id", "did:ex:m", "did:ex:h", "did:ex:r"⟩
    (run refusingOnce).result = .error (.core (.storage "store failed")) ∧
      (run willing).result = .ok mediator ∧ (run willing).world.held = some ⟨mediator, 0⟩ ∧
        (run willing).world.outside.stored = some mediator := by
  intro agent run willing mediator
  let ports := grantingSandbox.ports "id" "now"
  have stores := (grantingSandbox.store_contract "id" "now").stores
  have known : Grant.shape.parse (Grant.shape.render ⟨"did:ex:r"⟩) = .ok ⟨"did:ex:r"⟩ := by
    decide +kernel
  let m := HostRequest.mediation.message "did:ex:h" "did:ex:m" ⟨"id", "now"⟩
  let sending (s : SandboxState) := (agent.routing.send m).run ports ⟨s, none⟩
  have grants (s : SandboxState) (sent : (sending s).result = .ok (some [65])) :
      agent.Granted ports "did:ex:h" (sending s) mediator (sending s).world.outside :=
    ⟨[65], ⟨"did:ex:r"⟩, _, sent, ⟨_, ⟨"A", rfl, by decide, by decide, rfl⟩, rfl, known⟩, rfl, rfl⟩
  have general (s : SandboxState) :=
    agent.mediation_iff_grant_stored stores (⟨s, none⟩ : World SandboxState) "did:ex:h"
  have refused (s later : SandboxState) (e : Error)
      (granted : agent.Granted ports "did:ex:h" (sending s) mediator later)
      (failed : (ports.storeMediator mediator later).1 = .error e) :
      (run s).result = .error (.core e) := by
    obtain ⟨-, -, -, -, -, refused, -⟩ := general s
    exact refused mediator later e granted failed
  have taken (s later : SandboxState)
      (granted : agent.Granted ports "did:ex:h" (sending s) mediator later)
      (accepted : (ports.storeMediator mediator later).1 = .ok ()) :
      (run s).result = .ok mediator ∧ (run s).world.held = some ⟨mediator, 0⟩ ∧
        (run s).world.outside.stored = some mediator := by
    obtain ⟨-, -, succeeds, holds, -⟩ := general s
    have result := (succeeds mediator).2 ⟨later, granted, accepted⟩
    obtain ⟨-, -, held, -, kept⟩ := holds mediator result
    exact ⟨result, held, kept⟩
  constructor
  · exact refused refusingOnce _ _ (grants refusingOnce (by decide +kernel)) (by decide +kernel)
  · exact taken willing _ (grants willing (by decide +kernel)) (by decide +kernel)

end DidMessaging
