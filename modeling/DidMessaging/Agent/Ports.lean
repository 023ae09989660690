import DidMessaging.Agent.Program

namespace DidMessaging

/-- What an agent leaves to others. `σ` is the state of those others. -/
structure Ports (σ : Type) where
  resolve : String → σ → Except Error Document × σ
  pack : Message → σ → Except Error String × σ
  unpack : String → σ → Except Error Message × σ
  exchange : Request → σ → Except Error Response × σ
  loadMediator : σ → Except Error (Option Mediator) × σ
  storeMediator : Mediator → σ → Except Error Unit × σ
  freshId : σ → String × σ
  now : σ → String × σ
  connect : String → σ → Option (List SocketEvent) × σ
  transmit : String → σ → Bool × σ

/-- The others, and the relationship that the agent holds. -/
structure World (σ : Type) where
  outside : σ
  held : Option Relationship := none

def World.answered (w : World σ) (reply : α × σ) : α × World σ :=
  (reply.1, { w with outside := reply.2 })

def Ports.answer (ports : Ports σ) (w : World σ) : (effect : Effect) → effect.Answer × World σ
  | .resolve did => w.answered (ports.resolve did w.outside)
  | .pack m => w.answered (ports.pack m w.outside)
  | .unpack envelope => w.answered (ports.unpack envelope w.outside)
  | .exchange request => w.answered (ports.exchange request w.outside)
  | .loadMediator => w.answered (ports.loadMediator w.outside)
  | .storeMediator mediator => w.answered (ports.storeMediator mediator w.outside)
  | .freshId => w.answered (ports.freshId w.outside)
  | .now => w.answered (ports.now w.outside)
  | .log _ => ((), w)
  | .lock => ((), w)
  | .unlock => ((), w)
  | .held => (w.held, w)
  | .hold relationship => ((), { w with held := some relationship })
  | .connect url => w.answered (ports.connect url w.outside)
  | .transmit text => w.answered (ports.transmit text w.outside)
  | .disconnect => ((), w)
  | .deliver _ _ => ((), w)

structure Step where
  effect : Effect
  answer : effect.Answer

structure Run (σ α : Type) where
  result : Except AgentError α
  world : World σ
  steps : List Step

def Run.after (run : Run σ α) (step : Step) : Run σ α := { run with steps := step :: run.steps }

def Program.run (ports : Ports σ) : Program α → World σ → Run σ α
  | .done a, w => ⟨.ok a, w, []⟩
  | .fail e, w => ⟨.error e, w, []⟩
  | .ask effect next, w =>
    let (answer, w) := ports.answer w effect
    ((next answer).run ports w).after ⟨effect, answer⟩

def Run.andThen (run : Run σ α) (next : α → World σ → Run σ β) : Run σ β :=
  match run.result with
  | .ok a =>
    let rest := next a run.world
    { rest with steps := run.steps ++ rest.steps }
  | .error e => ⟨.error e, run.world, run.steps⟩

theorem Run.after_andThen (run : Run σ α) (step : Step) (next : α → World σ → Run σ β) :
    (run.after step).andThen next = (run.andThen next).after step := by
  obtain ⟨result, world, steps⟩ := run
  cases result <;> rfl

theorem Program.run_bind (ports : Ports σ) (p : Program α) (f : α → Program β) (w : World σ) :
    (p.bind f).run ports w = (p.run ports w).andThen fun a => (f a).run ports := by
  induction p generalizing w with
  | done => rfl
  | fail => rfl
  | ask effect next ih => simp only [ask_bind, Program.run, ih, Run.after_andThen]

namespace Run

def resolved (run : Run σ α) : List String :=
  run.steps.filterMap fun step =>
    match step.effect with
    | .resolve did => some did
    | _ => none

def requests (run : Run σ α) : List Request :=
  run.steps.filterMap fun step =>
    match step.effect with
    | .exchange request => some request
    | _ => none

def packed (run : Run σ α) : List Message :=
  run.steps.filterMap fun step =>
    match step.effect with
    | .pack m => some m
    | _ => none

def events (run : Run σ α) : List LogEvent :=
  run.steps.filterMap fun step =>
    match step.effect with
    | .log event => some event
    | _ => none

def delivered (run : Run σ α) : List (String × Message) :=
  run.steps.filterMap fun step =>
    match step.effect with
    | .deliver attachmentId m => some (attachmentId, m)
    | _ => none

def transmitted (run : Run σ α) : List String :=
  run.steps.filterMap fun step =>
    match step.effect with
    | .transmit text => some text
    | _ => none

end Run

end DidMessaging
