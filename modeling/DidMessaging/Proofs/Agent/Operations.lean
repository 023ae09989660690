import DidMessaging.Agent.Operation
import DidMessaging.Proofs.Agent.Orderly

/-! The operations of an agent, put together by the rules of `Orderly`: the one place that follows
their steps for all that is said of them together. -/

namespace DidMessaging

open Program

def AllReceived (messages : List (String × Message)) : Prop :=
  ∀ entry ∈ messages, entry.2.direction = .received

variable {routing : Routing} {proper : Message → Prop} {allowed : Effect → Prop}

theorem Agent.orderly_deliverAll {messages : List (String × Message)}
    (received : AllReceived messages) :
    (deliverAll messages).Orderly routing proper allowed fun _ => True := by
  induction messages with
  | nil => exact .done _ trivial
  | cons entry messages ih =>
      refine .bind (.deliver entry.1 (received entry List.mem_cons_self)) fun _ _ => ?_
      exact ih fun later member => received later (List.mem_cons_of_mem _ member)

section Parts

variable (idle : ∀ effect, effect.isIdle = true → allowed effect)
include idle

theorem orderly_log (event : LogEvent) :
    (log event).Orderly routing proper allowed fun _ => True :=
  .perform rfl (idle _ rfl)

namespace MailboxAnswer

theorem orderly_unpackAttachment (attachment : Attachment) :
    (unpackAttachment attachment).Orderly routing proper allowed
      fun opened => AllReceived opened.toList := by
  unfold unpackAttachment
  cases envelope? attachment.data with
  | none => exact .done _ nofun
  | some envelope =>
      refine .bind (.attempt (.bind (orderly_core envelope) fun text _ => .unpack text)) ?_
      intro outcome holds
      cases outcome with
      | error e => exact .bind (orderly_log idle _) fun _ _ => .done _ nofun
      | ok m =>
          refine .done _ fun entry member => ?_
          obtain rfl := List.mem_singleton.1 member
          exact holds m rfl

theorem orderly_unpackAll (attachments : List Attachment) :
    (unpackAll attachments).Orderly routing proper allowed AllReceived := by
  induction attachments with
  | nil => exact .done _ nofun
  | cons attachment attachments ih =>
      refine .bind (orderly_unpackAttachment idle attachment) fun first received => ?_
      refine .bind ih fun others all => .done _ fun entry member => ?_
      rcases List.mem_append.1 member with here | later
      · exact received entry here
      · exact all entry later

theorem orderly_messages (answer : MailboxAnswer) :
    answer.messages.Orderly routing proper allowed AllReceived := by
  cases answer with
  | status m => exact .done _ nofun
  | delivery m => exact orderly_unpackAll idle m.attachments

end MailboxAnswer

namespace Routing

theorem orderly_readResponse (id : String) (body : List UInt8) :
    (readResponse id body).Orderly routing proper allowed
      fun response => ∀ m ∈ response, m.direction = .received := by
  unfold readResponse
  split
  · exact .bind (orderly_log idle _) fun _ _ => .done _ nofun
  · split
    · exact .done _ nofun
    · refine .bind (.attempt (.unpack _)) fun outcome holds => ?_
      cases outcome with
      | error e => exact .bind (orderly_log idle _) fun _ _ => .done _ nofun
      | ok response =>
          refine .done _ fun m member => ?_
          obtain rfl := Option.some.inj member
          exact holds response rfl

end Routing

end Parts

theorem MailboxAnswer.messages_local (answer : MailboxAnswer) : answer.messages.Local :=
  Orderly.stays_local (answer.orderly_messages fun _ _ => trivial)

namespace Agent

def answered (m : Message) : Option (List UInt8) → Program (Option Message)
  | none => return none
  | some body => Routing.readResponse m.id body

def inquire (agent : Agent) (request : HostRequest)
    (rest : Relationship → Message → Option (List UInt8) → Program α)
    (relationship : Relationship) : Program α := do
  let m ← requestMessage request relationship.mediator.host relationship.mediator.did
  let answer ← agent.routing.send m
  rest relationship m answer

def asking (agent : Agent) (request : HostRequest)
    (rest : Relationship → Message → Option (List UInt8) → Program α) : Program α :=
  current >>= agent.inquire request rest

def counting (dids : List String) (relationship : Relationship) (_ : Message)
    (_ : Option (List UInt8)) : Program Unit := do
  Program.perform (.hold { relationship with registered := relationship.registered + dids.length })
  log (.registered dids.length relationship.mediator.did)

def collecting (_ : Relationship) (m : Message) (answer : Option (List UInt8)) :
    Program (List (String × Message)) := do
  match ← answered m answer with
  | none => return []
  | some response => (← ofExcept (MailboxAnswer.ofMessage response)).messages

def listening (endpoint : String) (relationship : Relationship) : Program Unit :=
  match Url.WebUrl.parse endpoint with
  | none => .fail (.invalidEndpoint endpoint)
  | some url => do
    let address := url.socket.text
    match ← Program.perform (.connect address) with
    | none => .fail .websocket
    | some events =>
      let mediator := relationship.mediator
      let m ← requestMessage (.liveDelivery true) mediator.host mediator.did
      let frame ← Program.pack m
      if ← Program.perform (.transmit frame) then
        log (.listening address)
        watch events
        log (.stoppedListening address)
      else
        .fail .websocket

theorem register_eq_asking (agent : Agent) (dids : List String) :
    agent.register dids =
      exclusively (agent.asking (.registration dids) (counting dids)) :=
  rfl

theorem acknowledge_eq_asking (agent : Agent) (ids : List String) :
    agent.acknowledge ids = agent.asking (.received ids) fun _ _ _ => return () :=
  rfl

theorem pickUp_eq_asking (agent : Agent) (limit : UInt32) :
    agent.pickUp limit = agent.asking (.delivery limit) collecting := by
  simp only [pickUp, asking, Routing.sendAndParse, LawfulMonad.bind_assoc]
  rfl

theorem current_asks {allowed : Effect → Prop} (present : allowed .held) :
    current.Asks allowed := by
  refine asks_bind (asks_perform present) fun held => ?_
  cases held <;> trivial

theorem requestMessage_asks {allowed : Effect → Prop} {request : HostRequest}
    {host mediator : String} (ids : allowed .freshId) (times : allowed .now) :
    (requestMessage request host mediator).Asks allowed :=
  asks_bind (asks_perform ids) fun _ => asks_bind (asks_perform times) fun _ => trivial

theorem readGrant_asks {allowed : Effect → Prop} {mediator : String} {response : Option Message}
    (logs : ∀ event, allowed (.log event)) :
    (readGrant mediator response).Asks allowed := by
  unfold readGrant
  split
  · trivial
  · split
    · trivial
    · exact asks_bind (asks_perform (logs _)) fun _ => trivial

section Reading

variable (idle : ∀ effect, effect.isIdle = true → allowed effect)
include idle

theorem orderly_current : current.Orderly routing proper allowed fun _ => True :=
  orderly_of_asks (current_asks ⟨rfl, idle _ rfl⟩)

theorem orderly_requestMessage (request : HostRequest) (host mediator : String) :
    (requestMessage request host mediator).Orderly routing proper allowed
      fun m => m.recipient = some mediator := by
  refine .bind (.perform rfl (idle _ rfl)) fun id _ => ?_
  exact .bind (.perform rfl (idle _ rfl)) fun created _ => .done _ rfl

theorem orderly_answered (m : Message) (answer : Option (List UInt8)) :
    (answered m answer).Orderly routing proper allowed
      fun response => ∀ m ∈ response, m.direction = .received := by
  cases answer with
  | none => exact .done _ nofun
  | some body => exact Routing.orderly_readResponse idle m.id body

theorem orderly_sendAndParse {m : Message} (isProper : proper m) :
    (routing.sendAndParse m).Orderly routing proper allowed
      fun response => ∀ m ∈ response, m.direction = .received :=
  .bind (.send isProper) fun answer _ => orderly_answered idle m answer

theorem orderly_collecting (relationship : Relationship) (m : Message)
    (answer : Option (List UInt8)) :
    (collecting relationship m answer).Orderly routing proper allowed AllReceived := by
  refine .bind (orderly_answered idle m answer) fun response _ => ?_
  cases response with
  | none => exact .done _ nofun
  | some response =>
      refine .bind (orderly_ofExcept (Q := fun _ => True) fun _ _ => trivial) fun answer _ => ?_
      exact answer.orderly_messages idle

theorem orderly_inquire (agent : Agent) {relationship : Relationship}
    (addressed : ∀ m, m.recipient = some relationship.mediator.did → proper m)
    (request : HostRequest) {rest : Relationship → Message → Option (List UInt8) → Program α}
    {post : α → Prop}
    (orderly : ∀ m answer, (rest relationship m answer).Orderly agent.routing proper allowed post) :
    (agent.inquire request rest relationship).Orderly agent.routing proper allowed post := by
  refine .bind (orderly_requestMessage idle request _ _) fun m recipient => ?_
  exact .bind (.send (addressed m recipient)) fun answer _ => orderly m answer

theorem orderly_asking (agent : Agent) (every : ∀ m, proper m) (request : HostRequest)
    {rest : Relationship → Message → Option (List UInt8) → Program α} {post : α → Prop}
    (orderly : ∀ relationship m answer,
      (rest relationship m answer).Orderly agent.routing proper allowed post) :
    (agent.asking request rest).Orderly agent.routing proper allowed post :=
  .bind (orderly_current idle) fun relationship _ =>
    agent.orderly_inquire idle (fun m _ => every m) request (orderly relationship)

theorem orderly_handleFrame (frame : String) :
    (handleFrame frame).Orderly routing proper allowed fun _ => True := by
  refine .bind (.attempt (.unpack frame)) fun outcome _ => ?_
  cases outcome with
  | error e => exact orderly_log idle _
  | ok m =>
      dsimp only
      cases MailboxAnswer.ofMessage m with
      | error e => exact orderly_log idle _
      | ok answer =>
          exact .bind (answer.orderly_messages idle) fun _ received =>
            orderly_deliverAll received

theorem orderly_watch (events : List SocketEvent) :
    (watch events).Orderly routing proper allowed fun _ => True := by
  induction events with
  | nil => exact .done _ trivial
  | cons event events ih =>
      cases event with
      | text frame => exact .bind (orderly_handleFrame idle frame) fun _ _ => ih
      | binary bytes =>
          simp only [watch]
          split
          · exact .bind (orderly_handleFrame idle _) fun _ _ => ih
          · exact .bind (orderly_log idle _) fun _ _ => ih
      | control => exact ih
      | closed => exact .done _ trivial
      | failed => exact .fail _
      | cancelled => exact .perform rfl (idle _ rfl)

theorem orderly_listening (agent : Agent) {relationship : Relationship}
    (addressed : ∀ m, m.recipient = some relationship.mediator.did → proper m)
    (endpoint : String) :
    (listening endpoint relationship).Orderly agent.routing proper allowed fun _ => True := by
  unfold listening
  cases Url.WebUrl.parse endpoint with
  | none => exact .fail _
  | some url =>
      refine .bind (.perform rfl (idle _ rfl)) fun socket _ => ?_
      cases socket with
      | none => exact .fail _
      | some events =>
          refine .bind (orderly_requestMessage idle _ _ _) fun m recipient => ?_
          refine .bind (.pack (addressed m recipient)) fun frame _ => ?_
          refine .bind (.perform rfl (idle _ rfl)) fun sent _ => ?_
          cases sent with
          | false => exact .fail _
          | true =>
              refine .bind (orderly_log idle _) fun _ _ => ?_
              exact .bind (orderly_watch idle events) fun _ _ => orderly_log idle _

theorem orderly_pickUpItems (agent : Agent) (every : ∀ m, proper m) (limit : UInt32)
    (taken : Option Nat) :
    (agent.pickUpItems limit taken).Orderly agent.routing proper allowed
      fun items => ∀ entry, .ok entry ∈ items → entry.2.direction = .received := by
  unfold pickUpItems
  split
  · exact .done _ nofun
  rw [pickUp_eq_asking]
  refine .bind (.attempt (agent.orderly_asking idle every _ (orderly_collecting idle))) ?_
  refine fun outcome holds => .done _ fun entry member => ?_
  have among {items : List (Except AgentError (String × Message))}
      (present : .ok entry ∈ (taken.map fun count => items.take count).getD items) :
      .ok entry ∈ items := by
    cases taken with
    | none => exact present
    | some count => exact List.mem_of_mem_take present
  cases outcome with
  | error e => cases List.mem_singleton.1 (among member)
  | ok messages =>
      obtain ⟨_, present, same⟩ := List.mem_map.1 (among member)
      cases same
      exact holds messages rfl entry present

variable (holds : ∀ relationship, allowed (.hold relationship))
include holds

theorem orderly_counting (dids : List String) (relationship : Relationship) (m : Message)
    (answer : Option (List UInt8)) :
    (counting dids relationship m answer).Orderly routing proper allowed fun _ => True :=
  .bind (.perform rfl (holds _)) fun _ _ => orderly_log idle _

theorem recover_exclusive : ∃ body, recover = exclusively body ∧
    body.Orderly routing proper allowed fun _ => True := by
  refine ⟨_, rfl, .bind (.perform rfl (idle _ rfl)) fun held _ => ?_⟩
  cases held with
  | some relationship => exact .done _ trivial
  | none =>
      refine .bind (.perform rfl (idle _ rfl)) fun loaded _ => ?_
      refine .bind (orderly_core loaded) fun found _ => ?_
      cases found with
      | none => exact .done _ trivial
      | some mediator =>
          refine .bind (orderly_log idle _) fun _ _ => ?_
          exact .bind (.perform rfl (holds _)) fun _ _ => .done _ trivial

theorem requestMediation_exclusive (agent : Agent)
    (addressed : ∀ m, m.recipient = some agent.mediator → proper m)
    (stores : ∀ mediator, allowed (.storeMediator mediator)) (host : String) :
    ∃ body, agent.requestMediation host = exclusively body ∧
      body.Orderly agent.routing proper allowed fun _ => True := by
  refine ⟨_, rfl, .bind (orderly_requestMessage idle _ _ _) fun m recipient => ?_⟩
  refine .bind (orderly_sendAndParse idle (addressed m recipient)) fun response _ => ?_
  refine .bind (orderly_of_asks (readGrant_asks fun _ => ⟨rfl, idle _ rfl⟩)) fun grant _ => ?_
  refine .bind (.perform rfl (idle _ rfl)) fun id _ => ?_
  refine .bind (.perform rfl (stores _)) fun outcome _ => ?_
  refine .bind (orderly_core outcome) fun _ _ => .bind (orderly_log idle _) fun _ _ => ?_
  exact .bind (.perform rfl (holds _)) fun _ _ => .done _ trivial

end Reading

theorem answered_local (m : Message) (answer : Option (List UInt8)) :
    (answered m answer).Local :=
  Orderly.stays_local (orderly_answered (fun _ _ => trivial) m answer)

theorem collecting_local (relationship : Relationship) (m : Message)
    (answer : Option (List UInt8)) : (collecting relationship m answer).Local :=
  Orderly.stays_local (orderly_collecting (fun _ _ => trivial) relationship m answer)

theorem counting_local (dids : List String) (relationship : Relationship) (m : Message)
    (answer : Option (List UInt8)) : (counting dids relationship m answer).Local :=
  Orderly.stays_local <|
    orderly_counting (fun _ _ => trivial) (fun _ => trivial) dids relationship m answer

end Agent

namespace Operation

def isReading : Operation → Bool
  | .recover | .requestMediation _ | .register _ => false
  | _ => true

def returned : (operation : Operation) → operation.Result → List Message
  | .unpack _, m => [m]
  | .sendAndParse _, response => response.toList
  | .pickUp _ _, items => items.filterMap fun item => item.toOption.map Prod.snd
  | _, _ => []

/-- Every operation is orderly, and what it gives back was received. -/
theorem orderly_program (agent : Agent) (operation : Operation) (every : ∀ m, proper m)
    (idle : ∀ effect, effect.isIdle = true → allowed effect)
    (writes : operation.isReading = false → ∀ effect, effect.isSimple = true → allowed effect) :
    (operation.program agent).Orderly agent.routing proper allowed
      fun result => ∀ m ∈ operation.returned result, m.direction = .received := by
  have nothing {α : Type} {p : Program α}
      (orderly : p.Orderly agent.routing proper allowed fun _ => True) :
      p.Orderly agent.routing proper allowed
        fun _ => ∀ m ∈ ([] : List Message), m.direction = .received :=
    .weaken orderly fun _ _ => nofun
  cases operation with
  | send m => exact nothing (.send (every m))
  | sendAndParse m =>
      refine .weaken (Agent.orderly_sendAndParse idle (every m)) ?_
      intro response received m member
      exact received m (by simpa [returned] using member)
  | pack m => exact nothing (.pack (every m))
  | unpack envelope =>
      refine .weaken (.unpack envelope) fun opened received m member => ?_
      obtain rfl := List.mem_singleton.1 member
      exact received
  | recover =>
      obtain ⟨body, exclusive, orderly⟩ :=
        Agent.recover_exclusive idle fun relationship => writes rfl (.hold relationship) rfl
      simp only [program, exclusive]
      exact nothing (orderly.exclusively (writes rfl _ rfl) (writes rfl _ rfl))
  | requestMediation host =>
      obtain ⟨body, exclusive, orderly⟩ := agent.requestMediation_exclusive idle
        (fun relationship => writes rfl (.hold relationship) rfl) (fun m _ => every m)
        (fun mediator => writes rfl (.storeMediator mediator) rfl) host
      simp only [program, exclusive]
      exact nothing (orderly.exclusively (writes rfl _ rfl) (writes rfl _ rfl))
  | register dids =>
      have orderly := agent.orderly_asking idle every (.registration dids) <|
        Agent.orderly_counting idle (fun relationship => writes rfl (.hold relationship) rfl) dids
      exact nothing (orderly.exclusively (writes rfl _ rfl) (writes rfl _ rfl))
  | pickUp limit taken =>
      refine .weaken (agent.orderly_pickUpItems idle every limit taken) ?_
      intro items received m member
      obtain ⟨item, present, found⟩ := List.mem_filterMap.1 member
      cases item with
      | error e => cases found
      | ok entry =>
          obtain rfl := Option.some.inj found
          exact received entry present
  | acknowledge ids =>
      exact nothing (agent.orderly_asking idle every _ fun _ _ _ => .done _ trivial)
  | listen endpoint =>
      exact nothing (.bind (Agent.orderly_current idle) fun relationship _ =>
        agent.orderly_listening idle (fun m _ => every m) endpoint)

/-- Each step of an operation is permitted by those before it, if the rules admit it. -/
theorem steps_program (agent : Agent) (operation : Operation)
    {permits : List Step → Effect → Prop}
    (admits : agent.routing.Admits (fun _ => True) (fun _ => True) permits) (ports : Ports σ)
    (w : World σ) :
    let run := (operation.program agent).run ports w
    (∀ before step after, run.steps = before ++ step :: after → permits before step.effect) ∧
      ∀ result, run.result = .ok result →
        ∀ m ∈ operation.returned result, m.direction = .received := by
  intro run
  have orderly := operation.orderly_program agent (fun _ => trivial) (fun _ _ => trivial)
    fun _ _ _ => trivial
  obtain ⟨steps, outcome⟩ := run_obeys (orderly.keeps admits []) ports w
  refine ⟨fun before step after split => ?_, outcome⟩
  simpa using steps before step after split

theorem program_reading (agent : Agent) (operation : Operation)
    (reading : operation.isReading = true) : (operation.program agent).Reading := by
  have orderly : (operation.program agent).Orderly agent.routing (fun _ => True)
      (fun effect => effect.isReading = true) _ :=
    operation.orderly_program agent (fun _ => trivial) (fun _ => Effect.reading_of_idle)
      fun writes => nomatch reading.symm.trans writes
  exact orderly.reading

/-- Operations that may change the relationship hold the lock on it from their first step to their
last. -/
theorem program_exclusive (agent : Agent) (operation : Operation)
    (writes : operation.isReading = false) :
    ∃ body, operation.program agent = exclusively body ∧ body.Unlocking := by
  -- Any messages may be sent meanwhile: it is only the lock that counts.
  have unlocking {α : Type} {p : Program α} (orderly : ∃ body, p = exclusively body ∧
      body.Orderly agent.routing (fun _ => True) (fun effect => effect.isLocking = false)
        fun _ => True) : ∃ body, p = exclusively body ∧ body.Unlocking := by
    obtain ⟨body, exclusive, orderly⟩ := orderly
    exact ⟨body, exclusive, orderly.unlocking⟩
  have idle (effect : Effect) : effect.isIdle = true → effect.isLocking = false :=
    Effect.unlocking_of_idle
  cases operation with
  | recover => exact unlocking (Agent.recover_exclusive idle fun _ => rfl)
  | requestMediation host =>
      exact unlocking (agent.requestMediation_exclusive idle (fun _ => rfl) (fun _ _ => trivial)
        (fun _ => rfl) host)
  | register dids =>
      exact unlocking ⟨_, agent.register_eq_asking dids, agent.orderly_asking idle
        (fun _ => trivial) _ (Agent.orderly_counting idle (fun _ => rfl) dids)⟩
  | _ => cases writes

end Operation

end DidMessaging
