import DidMessaging.Agent.Log
import DidMessaging.Did.Document
import DidMessaging.Http.Basic
import DidMessaging.Message.Basic

/-! Programs of an agent: trees of the questions it asks of the world, with what it does next for
every answer. -/

namespace DidMessaging

/-- A mediator that has accepted us, and how many DIDs were registered with it. A running agent
counts in a machine word: what is said of the count holds there below `2 ^ 64`. -/
structure Relationship where
  mediator : Mediator
  registered : Nat := 0
  deriving DecidableEq, Repr

inductive SocketEvent where
  | text (content : String)
  | binary (content : List UInt8)
  | control
  | closed
  | failed
  | cancelled
  deriving DecidableEq

inductive Effect where
  | resolve (did : String)
  | pack (message : Message)
  | unpack (envelope : String)
  | exchange (request : Request)
  | loadMediator
  | storeMediator (mediator : Mediator)
  | freshId
  | now
  | log (event : LogEvent)
  | lock
  | unlock
  | held
  | hold (relationship : Relationship)
  | connect (url : String)
  | transmit (text : String)
  | disconnect
  | deliver (attachmentId : String) (message : Message)
  deriving DecidableEq

/-- A socket is known by all that will come in over it; there is none if nobody answers. -/
abbrev Effect.Answer : Effect → Type
  | .resolve _ => Except Error Document
  | .pack _ => Except Error String
  | .unpack _ => Except Error Message
  | .exchange _ => Except Error Response
  | .loadMediator => Except Error (Option Mediator)
  | .storeMediator _ => Except Error Unit
  | .freshId => String
  | .now => String
  | .log _ => Unit
  | .lock => Unit
  | .unlock => Unit
  | .held => Option Relationship
  | .hold _ => Unit
  | .connect _ => Option (List SocketEvent)
  | .transmit _ => Bool
  | .disconnect => Unit
  | .deliver _ _ => Unit

inductive Program (α : Type) where
  | done (value : α)
  | fail (error : AgentError)
  | ask (effect : Effect) (next : effect.Answer → Program α)

namespace Program

def bind : Program α → (α → Program β) → Program β
  | .done a, f => f a
  | .fail e, _ => .fail e
  | .ask effect next, f => .ask effect fun answer => (next answer).bind f

instance : Monad Program where
  pure := .done
  bind := bind

def perform (effect : Effect) : Program effect.Answer := .ask effect .done

def core : Except Error α → Program α
  | .ok a => .done a
  | .error e => .fail (.core e)

def ofExcept : Except AgentError α → Program α
  | .ok a => .done a
  | .error e => .fail e

def attempt : Program α → Program (Except AgentError α)
  | .done a => .done (.ok a)
  | .fail e => .done (.error e)
  | .ask effect next => .ask effect fun answer => (next answer).attempt

def log (event : LogEvent) : Program Unit := perform (.log event)

/-- Holds the lock on the relationship from the first step to the last, also where `p` fails. -/
def exclusively (p : Program α) : Program α := do
  perform .lock
  let outcome ← p.attempt
  perform .unlock
  ofExcept outcome

@[simp] theorem done_bind (a : α) (f : α → Program β) : (Program.done a).bind f = f a := rfl

@[simp] theorem fail_bind (e : AgentError) (f : α → Program β) :
    (Program.fail e).bind f = .fail e := rfl

@[simp] theorem ask_bind (effect : Effect) (next : effect.Answer → Program α)
    (f : α → Program β) :
    (Program.ask effect next).bind f = .ask effect fun answer => (next answer).bind f := rfl

theorem bind_done (p : Program α) : p.bind .done = p := by
  induction p with
  | done => rfl
  | fail => rfl
  | ask effect next ih => simp only [ask_bind, ih]

theorem bind_assoc (p : Program α) (f : α → Program β) (g : β → Program γ) :
    (p.bind f).bind g = p.bind fun a => (f a).bind g := by
  induction p with
  | done => rfl
  | fail => rfl
  | ask effect next ih => simp only [ask_bind, ih]

instance : LawfulMonad Program :=
  LawfulMonad.mk' Program bind_done (fun _ _ => rfl) bind_assoc

end Program

end DidMessaging
