import DidMessaging.Agent.LiveDelivery
import DidMessaging.Agent.Ports

namespace DidMessaging

inductive Operation where
  | send (m : Message)
  | sendAndParse (m : Message)
  | pack (m : Message)
  | unpack (envelope : String)
  | recover
  | requestMediation (host : String)
  | register (dids : List String)
  | pickUp (limit : UInt32) (taken : Option Nat)
  | acknowledge (ids : List String)
  | listen (endpoint : String)
  deriving DecidableEq

namespace Operation

abbrev Result : Operation → Type
  | .send _ => Option (List UInt8)
  | .sendAndParse _ => Option Message
  | .pack _ => String
  | .unpack _ => Message
  | .recover => Option Mediator
  | .requestMediation _ => Mediator
  | .register _ => Unit
  | .pickUp _ _ => List (Except AgentError (String × Message))
  | .acknowledge _ => Unit
  | .listen _ => Unit

def program (agent : Agent) : (operation : Operation) → Program operation.Result
  | .send m => agent.routing.send m
  | .sendAndParse m => agent.routing.sendAndParse m
  | .pack m => Program.pack m
  | .unpack envelope => Program.unpack envelope
  | .recover => Agent.recover
  | .requestMediation host => agent.requestMediation host
  | .register dids => agent.register dids
  | .pickUp limit taken => agent.pickUpItems limit taken
  | .acknowledge ids => agent.acknowledge ids
  | .listen endpoint => Agent.listen endpoint

end Operation

structure Deed (σ : Type) where
  operation : Operation
  run : Run σ operation.Result

namespace Agent

def perform (agent : Agent) (ports : Ports σ) (w : World σ) (operation : Operation) : Deed σ :=
  ⟨operation, (operation.program agent).run ports w⟩

def performAll (agent : Agent) (ports : Ports σ) : List Operation → World σ → List (Deed σ)
  | [], _ => []
  | operation :: operations, w =>
    let deed := agent.perform ports w operation
    deed :: agent.performAll ports operations deed.run.world

end Agent

end DidMessaging
