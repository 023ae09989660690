import DidMessaging.Proofs.Agent.Addressing
import DidMessaging.Proofs.Agent.History
import Mathlib.Data.List.Nodup
import Mathlib.Logic.Function.Basic

namespace DidMessaging

/-- A call that may change the relationship, and the others that answer it. The others of several
calls share a state. Answers that are fixed for each call are those of others who look at nothing
but what the state holds for that call. -/
structure Call (σ : Type) where
  operation : Operation
  ports : Ports σ
  writes : operation.isReading = false

namespace Call

def run (call : Call σ) (agent : Agent) (w : World σ) : Run σ call.operation.Result :=
  (call.operation.program agent).run call.ports w

def deed (call : Call σ) (agent : Agent) (w : World σ) : Deed σ :=
  ⟨call.operation, call.run agent w⟩

end Call

variable {ι : Type} {calls : ι → Call σ}

def turns (agent : Agent) (calls : ι → Call σ) : List ι → World σ → List (Deed σ)
  | [], _ => []
  | i :: order, w =>
    (calls i).deed agent w :: turns agent calls order ((calls i).run agent w).world

def afterTurns (agent : Agent) (calls : ι → Call σ) : List ι → World σ → World σ
  | [], w => w
  | i :: order, w => afterTurns agent calls order ((calls i).run agent w).world

section Sequential

variable {agent : Agent} {w : World σ}

theorem afterTurns_append (earlier later : List ι) (w : World σ) :
    afterTurns agent calls (earlier ++ later) w =
      afterTurns agent calls later (afterTurns agent calls earlier w) := by
  induction earlier generalizing w with
  | nil => rfl
  | cons i earlier ih => exact ih _

theorem held_afterTurns (order : List ι) (w : World σ) :
    (afterTurns agent calls order w).held =
      relationshipAfter (turns agent calls order w) w.held := by
  induction order generalizing w with
  | nil => rfl
  | cons i order ih =>
      have here : ((calls i).run agent w).world.held = ((calls i).deed agent w).leaves w.held :=
        agent.perform_leaves (calls i).ports w (calls i).operation
      rw [afterTurns, ih, here]
      rfl

end Sequential

namespace Program

/-- The program drops the lock with its last step, and leaves it alone until then. -/
inductive Unlocks : Program α → Prop where
  | unlock (outcome : Except AgentError α) : Unlocks (.ask .unlock fun _ => ofExcept outcome)
  | ask {effect : Effect} {next : effect.Answer → Program α} (free : effect.isLocking = false)
      (rest : ∀ answer, (next answer).Unlocks) : Unlocks (.ask effect next)

theorem unlocks_attempt {body : Program α} (free : body.Unlocking) :
    (body.attempt >>= fun outcome => perform .unlock >>= fun _ => ofExcept outcome).Unlocks := by
  induction body with
  | done a => exact .unlock (.ok a)
  | fail e => exact .unlock (.error e)
  | ask effect next ih => exact .ask free.1 fun answer => ih answer (free.2 answer)

end Program

theorem Operation.program_locked (agent : Agent) (operation : Operation)
    (writes : operation.isReading = false) :
    ∃ rest, operation.program agent = .ask .lock (fun _ => rest) ∧ rest.Unlocks := by
  obtain ⟨body, exclusive, free⟩ := operation.program_exclusive agent writes
  exact ⟨_, exclusive, Program.unlocks_attempt free⟩

inductive Stage (α : Type) where
  | underway (taken : List Step) (effect : Effect) (next : effect.Answer → Program α)
  | returned (taken : List Step) (result : Except AgentError α)

namespace Stage

def of (taken : List Step) : Program α → Stage α
  | .done a => .returned taken (.ok a)
  | .fail e => .returned taken (.error e)
  | .ask effect next => .underway taken effect next

def isReturned : Stage α → Bool
  | .returned .. => true
  | _ => false

theorem of_ofExcept (taken : List Step) (result : Except AgentError α) :
    of taken (Program.ofExcept result) = .returned taken result := by
  cases result <;> rfl

end Stage

/-- Calls at work on one relationship. One of them at most holds the lock; `order` tells in which
order they have got it. -/
structure Session (calls : ι → Call σ) where
  world : World σ
  holder : Option ι := none
  order : List ι := []
  stage : (i : ι) → Stage (calls i).operation.Result

namespace Session

def start (agent : Agent) (calls : ι → Call σ) (world : World σ) : Session calls :=
  { world, stage := fun i => .of [] ((calls i).operation.program agent) }

variable {agent : Agent} {s : Session calls} {w : World σ} {i : ι}

def Settled (agent : Agent) (s : Session calls) : List ι → World σ → Prop
  | [], _ => True
  | i :: order, w =>
    s.stage i = .returned ((calls i).run agent w).steps ((calls i).run agent w).result ∧
      s.Settled agent order ((calls i).run agent w).world

theorem settled_append {earlier later : List ι} :
    s.Settled agent (earlier ++ later) w ↔
      s.Settled agent earlier w ∧ s.Settled agent later (afterTurns agent calls earlier w) := by
  induction earlier generalizing w with
  | nil => exact ⟨fun settled => ⟨trivial, settled⟩, And.right⟩
  | cons i earlier ih => exact (and_congr_right fun _ => ih).trans and_assoc.symm

theorem returned_of_settled {order : List ι} (settled : s.Settled agent order w) :
    ∀ i ∈ order, (s.stage i).isReturned = true := by
  induction order generalizing w with
  | nil =>
      intro i member
      cases member
  | cons j order ih =>
      intro i member
      rcases List.mem_cons.1 member with rfl | later
      · rw [settled.1]
        rfl
      · exact ih settled.2 i later

theorem settled_frame {s' : Session calls} {order : List ι} (settled : s.Settled agent order w)
    (same : ∀ i ∈ order, s'.stage i = s.stage i) : s'.Settled agent order w := by
  induction order generalizing w with
  | nil => trivial
  | cons i order ih =>
      constructor
      · rw [same i List.mem_cons_self]
        exact settled.1
      · exact ih settled.2 fun j later => same j (List.mem_cons_of_mem i later)

/-- Call `i` holds the lock after the calls `earlier` have returned, and the rest of its program
brings its turn to an end. -/
structure Holds (agent : Agent) (w : World σ) (s : Session calls) (i : ι) (earlier : List ι)
    (taken : List Step) (rest : Program (calls i).operation.Result) : Prop where
  locked : s.holder = some i
  order : s.order = earlier ++ [i]
  settled : s.Settled agent earlier w
  stage : s.stage i = .of taken rest
  unlocks : rest.Unlocks
  turn : (calls i).run agent (afterTurns agent calls earlier w) =
    let run := rest.run (calls i).ports s.world
    ⟨run.result, run.world, taken ++ run.steps⟩

inductive AtTurn (agent : Agent) (w : World σ) (s : Session calls) : Prop where
  | free (unlocked : s.holder = none) (settled : s.Settled agent s.order w)
      (world : s.world = afterTurns agent calls s.order w)
  | held (i : ι) (earlier : List ι) (taken : List Step) (rest : Program (calls i).operation.Result)
      (holds : s.Holds agent w i earlier taken rest)

/-- The invariant of a session from `w`: the calls take turns, and a call that has not got the lock
yet has done nothing. -/
structure Serial (agent : Agent) (w : World σ) (s : Session calls) : Prop where
  nodup : s.order.Nodup
  waiting : ∀ i, i ∉ s.order → s.stage i = .of [] ((calls i).operation.program agent)
  turn : s.AtTurn agent w

theorem Holds.mem_order {earlier : List ι} {taken : List Step}
    {rest : Program (calls i).operation.Result} (holds : s.Holds agent w i earlier taken rest) :
    i ∈ s.order := by
  rw [holds.order]
  exact List.mem_append_right _ List.mem_cons_self

theorem Holds.fresh {earlier : List ι} {taken : List Step}
    {rest : Program (calls i).operation.Result} (holds : s.Holds agent w i earlier taken rest)
    (nodup : s.order.Nodup) : i ∉ earlier := by
  rw [holds.order] at nodup
  intro member
  exact List.disjoint_of_nodup_append nodup member List.mem_cons_self

theorem serial_start (agent : Agent) (w : World σ) : (start agent calls w).Serial agent w where
  nodup := List.nodup_nil
  waiting := fun _ _ => rfl
  turn := .free rfl trivial rfl

theorem Serial.next_locks (serial : s.Serial agent w) (new : i ∉ s.order) :
    ∃ rest : Program (calls i).operation.Result, rest.Unlocks ∧
      (calls i).operation.program agent = .ask .lock (fun _ => rest) ∧
      s.stage i = .underway [] .lock fun _ => rest := by
  obtain ⟨rest, locked, unlocks⟩ := (calls i).operation.program_locked agent (calls i).writes
  refine ⟨rest, unlocks, locked, ?_⟩
  rw [serial.waiting i new, locked]
  rfl

/-- What an effect of call `i` does to the lock. Nobody gets it as long as another call has it. -/
def turnLock (s : Session calls) (i : ι) : Effect → Option (Session calls)
  | .lock =>
    if s.holder.isNone then some { s with holder := some i, order := s.order ++ [i] } else none
  | .unlock => some { s with holder := none }
  | _ => some s

theorem mem_order_turnLock {s' : Session calls} {effect : Effect} {j : ι}
    (turned : s.turnLock i effect = some s') (got : j ∈ s.order) : j ∈ s'.order := by
  unfold turnLock at turned
  split at turned
  · split at turned
    · cases turned
      exact List.mem_append_left _ got
    · cases turned
  all_goals cases turned; exact got

variable [DecidableEq ι]

def proceed (s : Session calls) (i : ι) (taken : List Step) (effect : Effect)
    (next : effect.Answer → Program (calls i).operation.Result) : Session calls :=
  let (answer, world) := (calls i).ports.answer s.world effect
  { s with
    world
    stage := Function.update s.stage i (.of (taken ++ [⟨effect, answer⟩]) (next answer)) }

/-- Call `i` takes its next step, or waits for the lock. -/
def advance (s : Session calls) (i : ι) : Session calls :=
  match s.stage i with
  | .returned .. => s
  | .underway taken effect next =>
    match s.turnLock i effect with
    | none => s
    | some s => s.proceed i taken effect next

def follow (s : Session calls) (schedule : List ι) : Session calls :=
  schedule.foldl advance s

theorem follow_append (s : Session calls) (first second : List ι) :
    s.follow (first ++ second) = (s.follow first).follow second :=
  List.foldl_append

theorem advance_returned (returned : (s.stage i).isReturned = true) : s.advance i = s := by
  cases stage : s.stage i with
  | returned taken result => simp only [advance, stage]
  | underway => rw [stage] at returned; cases returned

theorem advance_unlocking {taken : List Step} {effect : Effect}
    {next : effect.Answer → Program (calls i).operation.Result}
    (stage : s.stage i = .underway taken effect next) (free : effect.isLocking = false) :
    s.advance i = s.proceed i taken effect next := by
  have same : s.turnLock i effect = some s := by
    cases effect <;> first | rfl | cases free
  simp only [advance, stage, same]

theorem update_stage_of_mem {order : List ι} (new : i ∉ order) (stage : Stage _) :
    ∀ j ∈ order, Function.update s.stage i stage j = s.stage j := by
  intro j member
  apply Function.update_of_ne
  intro same
  exact new (same ▸ member)

theorem Serial.still_waiting (serial : s.Serial agent w) {order : List ι} (got : i ∈ order)
    (longer : ∀ j ∈ s.order, j ∈ order) (stage : Stage _) :
    ∀ j, j ∉ order → Function.update s.stage i stage j =
      .of [] ((calls j).operation.program agent) := by
  intro j absent
  have other : j ≠ i := by
    intro same
    exact absent (same ▸ got)
  have before : j ∉ s.order := by
    intro member
    exact absent (longer j member)
  exact (Function.update_of_ne other _ _).trans (serial.waiting j before)

theorem advance_new (serial : s.Serial agent w) (new : i ∉ s.order)
    (unlocked : s.holder = none) :
    (s.advance i).order = s.order ++ [i] := by
  obtain ⟨rest, -, -, stage⟩ := serial.next_locks new
  simp only [advance, stage, turnLock, unlocked, Option.isNone_none, ↓reduceIte]
  rfl

theorem serial_new (serial : s.Serial agent w) (new : i ∉ s.order) :
    (s.advance i).Serial agent w := by
  obtain ⟨rest, unlocks, locked, stage⟩ := serial.next_locks new
  cases serial.turn with
  | held j _ _ _ holds =>
      simp only [advance, stage, turnLock, holds.locked, Option.isNone_some, Bool.false_eq_true,
        ↓reduceIte]
      exact serial
  | free unlocked settled world =>
      simp only [advance, stage, turnLock, unlocked, Option.isNone_none, ↓reduceIte]
      constructor
      · exact List.nodup_append_comm.1 (List.nodup_cons.2 ⟨new, serial.nodup⟩)
      · have got : i ∈ s.order ++ [i] := List.mem_append_right _ List.mem_cons_self
        exact serial.still_waiting got (fun j member => List.mem_append_left _ member) _
      · refine .held i s.order [⟨.lock, ()⟩] rest ⟨rfl, rfl, ?_, ?_, unlocks, ?_⟩
        · exact settled_frame settled (update_stage_of_mem new _)
        · exact Function.update_self ..
        · rw [← world, Call.run, locked]
          rfl

section Holder

variable {earlier : List ι} {taken : List Step}

theorem Holds.proceed {effect : Effect} {next : effect.Answer → Program (calls i).operation.Result}
    (holds : s.Holds agent w i earlier taken (.ask effect next)) (nodup : s.order.Nodup)
    (unlocks : ∀ answer, (next answer).Unlocks) :
    (s.proceed i taken effect next).Holds agent w i earlier
      (taken ++ [⟨effect, ((calls i).ports.answer s.world effect).1⟩])
      (next ((calls i).ports.answer s.world effect).1) := by
  constructor
  · exact holds.locked
  · exact holds.order
  · exact settled_frame holds.settled (update_stage_of_mem (holds.fresh nodup) _)
  · exact Function.update_self ..
  · exact unlocks _
  · rw [holds.turn]
    simp [Program.run, Run.after, Session.proceed]

theorem serial_proceed (serial : s.Serial agent w) {effect : Effect}
    {next : effect.Answer → Program (calls i).operation.Result}
    (holds : s.Holds agent w i earlier taken (.ask effect next))
    (unlocks : ∀ answer, (next answer).Unlocks) :
    (s.proceed i taken effect next).Serial agent w := by
  constructor
  · exact serial.nodup
  · exact serial.still_waiting holds.mem_order (fun j member => member) _
  · exact .held i earlier _ _ (holds.proceed serial.nodup unlocks)

theorem serial_unlock (serial : s.Serial agent w)
    {result : Except AgentError (calls i).operation.Result}
    (holds : s.Holds agent w i earlier taken (.ask .unlock fun _ => .ofExcept result)) :
    (s.advance i).holder = none ∧ (s.advance i).Serial agent w := by
  have turn : (calls i).run agent (afterTurns agent calls earlier w) =
      ⟨result, s.world, taken ++ [⟨.unlock, ()⟩]⟩ := by
    rw [holds.turn]
    cases result <;> rfl
  have advanced : s.advance i =
      { s with
        holder := none
        stage := Function.update s.stage i (.returned (taken ++ [⟨.unlock, ()⟩]) result) } := by
    rw [← Stage.of_ofExcept]
    simp only [advance, holds.stage, Stage.of]
    rfl
  rw [advanced]
  refine ⟨rfl, serial.nodup, ?_, .free rfl ?_ ?_⟩
  · exact serial.still_waiting holds.mem_order (fun j member => member) _
  · rw [holds.order, settled_append]
    constructor
    · exact settled_frame holds.settled (update_stage_of_mem (holds.fresh serial.nodup) _)
    · refine ⟨?_, trivial⟩
      rw [turn]
      exact Function.update_self ..
  · rw [holds.order, afterTurns_append]
    simp [afterTurns, turn]

end Holder

/-- Whatever call takes a step, the session remains one of turns. -/
theorem serial_advance (serial : s.Serial agent w) (i : ι) : (s.advance i).Serial agent w := by
  -- A call that has had the lock has returned, unless it is the one that holds it.
  by_cases got : i ∈ s.order
  · cases serial.turn with
    | free unlocked settled world =>
        rw [advance_returned (returned_of_settled settled i got)]
        exact serial
    | held j earlier taken rest holds =>
        rw [holds.order] at got
        rcases List.mem_append.1 got with early | last
        · rw [advance_returned (returned_of_settled holds.settled i early)]
          exact serial
        · obtain rfl := List.mem_singleton.1 last
          cases holds.unlocks with
          | unlock result => exact (serial_unlock serial holds).2
          | ask free unlocks =>
              rw [advance_unlocking holds.stage free]
              exact serial_proceed serial holds unlocks
  · exact serial_new serial got

theorem serial_follow (serial : s.Serial agent w) (schedule : List ι) :
    (s.follow schedule).Serial agent w := by
  induction schedule generalizing s with
  | nil => exact serial
  | cons i schedule ih => exact ih (serial_advance serial i)

theorem mem_order_follow {j : ι} (got : j ∈ s.order) (schedule : List ι) :
    j ∈ (s.follow schedule).order := by
  induction schedule generalizing s with
  | nil => exact got
  | cons i schedule ih =>
      apply ih
      cases stage : s.stage i with
      | returned => simpa only [advance, stage] using got
      | underway taken effect next =>
          cases turned : s.turnLock i effect with
          | none => simpa only [advance, stage, turned] using got
          | some s' =>
              simp only [advance, stage, turned]
              have kept : j ∈ s'.order := mem_order_turnLock turned got
              exact kept

theorem exists_unlocked (serial : s.Serial agent w) : ∃ more, (s.follow more).holder = none := by
  cases serial.turn with
  | free unlocked settled world => exact ⟨[], unlocked⟩
  | held i earlier taken rest holds =>
      -- Whatever is answered, the rest of the program is one step nearer to dropping the lock.
      have unlocks := holds.unlocks
      induction unlocks generalizing s taken with
      | unlock result => exact ⟨[i], (serial_unlock serial holds).1⟩
      | ask free rest ih =>
          obtain ⟨more, unlocked⟩ := ih _ (serial_proceed serial holds rest) _
            (holds.proceed serial.nodup rest)
          refine ⟨i :: more, ?_⟩
          rw [follow, List.foldl_cons, advance_unlocking holds.stage free]
          exact unlocked

/-- However far a session has come, each of its calls can get the lock and give it up again. -/
theorem exists_got (serial : s.Serial agent w) (all : List ι) :
    ∃ more, (s.follow more).holder = none ∧ ∀ i ∈ all, i ∈ (s.follow more).order := by
  induction all with
  | nil =>
      obtain ⟨more, unlocked⟩ := exists_unlocked serial
      exact ⟨more, unlocked, nofun⟩
  | cons i all ih =>
      obtain ⟨first, unlocked, got⟩ := ih
      have now := serial_follow serial first
      by_cases present : i ∈ (s.follow first).order
      · exact ⟨first, unlocked, List.forall_mem_cons.2 ⟨present, got⟩⟩
      · have acquired : i ∈ ((s.follow first).advance i).order := by
          rw [advance_new now present unlocked]
          exact List.mem_append_right _ List.mem_cons_self
        obtain ⟨second, free⟩ := exists_unlocked (serial_advance now i)
        refine ⟨first ++ i :: second, ?_, ?_⟩
        · rw [follow_append]
          exact free
        · intro j member
          rw [follow_append]
          rcases List.mem_cons.1 member with rfl | other
          · exact mem_order_follow acquired second
          · exact mem_order_follow (got j other) (i :: second)

theorem exists_returned (serial : s.Serial agent w) (all : List ι) :
    ∃ more, ∀ i ∈ all, ((s.follow more).stage i).isReturned = true := by
  obtain ⟨more, unlocked, got⟩ := exists_got serial all
  refine ⟨more, ?_⟩
  intro i member
  cases (serial_follow serial more).turn with
  | free _ settled _ => exact returned_of_settled settled i (got i member)
  | held j _ _ _ holds => cases unlocked.symm.trans holds.locked

end Session

namespace Agent

variable {agent : Agent} {w : World σ}

/-- What is registered is added to the relationship that was found, and it is the mediator of that
relationship that was asked. -/
theorem registered_counts (ports : Ports σ) (operation : Operation)
    (counts : (agent.perform ports w operation).registered ≠ 0) :
    let deed := agent.perform ports w operation
    ∃ relationship, w.held = some relationship ∧
      deed.run.world.held =
        some { relationship with registered := relationship.registered + deed.registered } ∧
      ∀ m ∈ deed.written, m.recipient = some relationship.mediator.did := by
  intro deed
  cases operation with
  | register dids =>
      have left := agent.perform_leaves ports w (.register dids)
      have written := agent.written_addressee ports w (.register dids)
      cases held : w.held with
      | none =>
          have failed : ((agent.register dids).run ports w).result = .error .noMediator := by
            obtain ⟨outside, _⟩ := w
            cases held
            rfl
          refine absurd ?_ counts
          simp [Deed.registered, perform, Operation.program, failed, Except.toOption]
      | some relationship =>
          rw [held] at left
          refine ⟨relationship, rfl, left.trans (Deed.leaves_kept rfl relationship), ?_⟩
          intro m member
          obtain ⟨did, turned, same⟩ := written m member
          simp only [addressee, held, Option.map_some, Option.some.injEq] at turned
          rw [same, turned]
  | _ => exact absurd rfl counts

/-- Calls that are at work at the same time do what they do one after the other. However their
steps are interleaved, they can all go on until they have returned; and when all have returned, each
of them has got the lock once; each has taken the steps and come to the result of its turn in the
order of the lock; and the world is the one that the turns leave, with the same relationship, the
same count and the same store. So no registration is lost: as long as no call is granted mediation
anew, the relationship counts what all of them have registered. And none is added to a relationship
that another call has brought about meanwhile: a call counts what it has registered in the
relationship that it found when it got the lock, and it has written to the mediator of that
relationship. -/
theorem concurrent_as_sequential [DecidableEq ι] (agent : Agent) (calls : ι → Call σ) (w : World σ)
    (schedule : List ι) :
    let session := (Session.start agent calls w).follow schedule
    let world (order : List ι) := afterTurns agent calls order w
    (∀ all : List ι, ∃ more, ∀ i ∈ all, ((session.follow more).stage i).isReturned = true) ∧
    ((∀ i, (session.stage i).isReturned = true) →
      (session.order.Nodup ∧ ∀ i, i ∈ session.order) ∧
      (∀ earlier i later, session.order = earlier ++ i :: later →
        let run := (calls i).run agent (world earlier)
        session.stage i = .returned run.steps run.result) ∧
      session.world = world session.order ∧
      (∀ earlier later, session.order = earlier ++ later →
        (∀ deed ∈ turns agent calls later (world earlier), deed.granted? = none) →
        ∀ relationship, (world earlier).held = some relationship →
          let registered := registeredIn (turns agent calls later (world earlier))
          session.world.held =
            some { relationship with registered := relationship.registered + registered }) ∧
      ∀ earlier i later, session.order = earlier ++ i :: later →
        let deed := (calls i).deed agent (world earlier)
        deed.registered ≠ 0 →
          ∃ relationship, (world earlier).held = some relationship ∧
            (world (earlier ++ [i])).held =
              some { relationship with registered := relationship.registered + deed.registered } ∧
            ∀ m ∈ deed.written, m.recipient = some relationship.mediator.did) := by
  intro session world
  have serial : session.Serial agent w := Session.serial_follow (Session.serial_start agent w) _
  refine ⟨Session.exists_returned serial, fun returned => ?_⟩
  cases serial.turn with
  | held i _ taken rest holds =>
      -- Who holds the lock has not returned.
      have here : (session.stage i).isReturned = true := returned i
      rw [holds.stage] at here
      cases holds.unlocks <;> cases here
  | free unlocked settled left =>
      refine ⟨⟨serial.nodup, ?_⟩, ?_, left, ?_, ?_⟩
      · intro i
        by_cases got : i ∈ session.order
        · exact got
        · have here : (session.stage i).isReturned = true := returned i
          obtain ⟨rest, -, -, stage⟩ := serial.next_locks got
          rw [stage] at here
          cases here
      · intro earlier i later split run
        rw [split, Session.settled_append] at settled
        exact settled.2.1
      · intro earlier later split ungranted relationship held registered
        rw [left, split, afterTurns_append, held_afterTurns, held]
        exact relationshipAfter_kept ungranted relationship
      · intro earlier i later split deed counts
        have next : world (earlier ++ [i]) = deed.run.world := afterTurns_append earlier [i] w
        rw [next]
        exact registered_counts (calls i).ports (calls i).operation counts

end Agent

def contendedCalls : Fin 3 → Call SandboxState
  | 0 => ⟨.register ["did:ex:a", "did:ex:b"], grantingSandbox.ports "first" "now", rfl⟩
  | 1 => ⟨.requestMediation "did:ex:h", grantingSandbox.ports "second" "now", rfl⟩
  | 2 => ⟨.register ["did:ex:c"], grantingSandbox.ports "third" "now", rfl⟩

theorem contended_as_sequential :
    let agent : Agent := { mediator := "did:ex:m" }
    let replies : List Reply := List.replicate 3 (.response ⟨200, [65]⟩)
    let w : World SandboxState :=
      ⟨{ replies }, some ⟨⟨"old", "did:ex:m", "did:ex:g", "did:ex:o"⟩, 0⟩⟩
    let schedule := (List.replicate 40 [0, 1, 2]).flatten
    let session := (Session.start agent contendedCalls w).follow schedule
    session.order = [0, 1, 2] ∧ (∀ i, (session.stage i).isReturned = true) ∧
      session.world = afterTurns agent contendedCalls [0, 1, 2] w ∧
      session.world.held = some ⟨⟨"second", "did:ex:m", "did:ex:h", "did:ex:r"⟩, 1⟩ := by
  intro agent replies w schedule session
  have order : session.order = [0, 1, 2] := by decide +kernel
  have returned : ∀ i, (((Session.start agent contendedCalls w).follow schedule).stage
      i).isReturned = true := by decide +kernel
  have held : session.world.held = some ⟨⟨"second", "did:ex:m", "did:ex:h", "did:ex:r"⟩, 1⟩ := by
    decide +kernel
  have sequential := (agent.concurrent_as_sequential contendedCalls w schedule).2 returned
  have same : (Session.start agent contendedCalls w).follow schedule = session := rfl
  rw [same] at sequential returned
  clear_value session
  have world := sequential.2.2.1
  rw [order] at world
  exact ⟨order, returned, world, held⟩

end DidMessaging
