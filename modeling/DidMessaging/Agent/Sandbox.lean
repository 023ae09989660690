import DidMessaging.Agent.Ports
import DidMessaging.Message.Envelope

namespace DidMessaging

inductive Reply where
  | response (response : Response)
  | failure (reason : String)
  deriving DecidableEq

/-- What does not change. Of several documents with one id the last counts. -/
structure Sandbox where
  documents : List Document := []
  unresolvable : List (String × String) := []
  codec : Codec := .plain
  socket : Option (List SocketEvent) := none

/-- What changes: replies still to come, the stored mediator, and how many times the store is still
to fail. -/
structure SandboxState where
  replies : List Reply := []
  stored : Option Mediator := none
  loadFailures : Nat := 0
  storeFailures : Nat := 0
  deriving DecidableEq

namespace Sandbox

def resolve (sandbox : Sandbox) (did : String) : Except Error Document :=
  match sandbox.unresolvable.lookup did with
  | some reason => .error (.invalidFormat reason)
  | none =>
    match sandbox.documents.reverse.find? fun document => document.id = did with
    | some document => .ok document
    | none => .error (.resolution s!"unknown DID {did}")

def exchange (request : Request) (state : SandboxState) :
    Except Error Response × SandboxState :=
  match state.replies with
  | [] => (.ok { status := 200 }, state)
  | .response response :: replies => (.ok response, { state with replies })
  | .failure reason :: replies =>
    (.error (.transport request.url reason), { state with replies })

def load (state : SandboxState) : Except Error (Option Mediator) × SandboxState :=
  match state.loadFailures with
  | 0 => (.ok state.stored, state)
  | n + 1 => (.error (.storage "load failed"), { state with loadFailures := n })

def store (mediator : Mediator) (state : SandboxState) : Except Error Unit × SandboxState :=
  match state.storeFailures with
  | 0 => (.ok (), { state with stored := some mediator })
  | n + 1 => (.error (.storage "store failed"), { state with storeFailures := n })

def ports (sandbox : Sandbox) (id time : String) : Ports SandboxState where
  resolve did state := (sandbox.resolve did, state)
  pack m state := (sandbox.codec.pack m, state)
  unpack envelope state := (sandbox.codec.unpack envelope, state)
  exchange := exchange
  loadMediator := load
  storeMediator := store
  freshId state := (id, state)
  now state := (time, state)
  connect _ state := (sandbox.socket, state)
  transmit _ state := (true, state)

end Sandbox

end DidMessaging
