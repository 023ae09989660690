import DidMessaging.Agent.Mailbox

namespace DidMessaging

inductive RelationshipState where
  | unknown
  | granted
  | active (registered : Nat)
  deriving DecidableEq, Repr

def RelationshipState.ofHeld : Option Relationship → RelationshipState
  | none => .unknown
  | some r => if r.registered = 0 then .granted else .active r.registered

structure Agent where
  routing : Routing := {}
  mediator : String
  deriving DecidableEq, Repr

namespace Agent

open Program

def recover : Program (Option Mediator) := exclusively do
  match ← perform .held with
  | some current => return some current.mediator
  | none =>
    match ← core (← perform .loadMediator) with
    | none => return none
    | some mediator =>
      log (.recovered mediator.did)
      perform (.hold ⟨mediator, 0⟩)
      return some mediator

def requestMessage (request : HostRequest) (host mediator : String) : Program Message := do
  let id ← perform .freshId
  let created ← perform .now
  return request.message host mediator ⟨id, created⟩

def readGrant (mediator : String) : Option Message → Program Grant
  | none => .fail .noMediator
  | some response =>
    match Grant.ofMessage response with
    | .ok grant => .done grant
    | .error e => do
      log (.refused mediator e)
      .fail .noMediator

/-- Asks for mediation. What is granted is stored, and then held. -/
def requestMediation (agent : Agent) (host : String) : Program Mediator := exclusively do
  let m ← requestMessage .mediation host agent.mediator
  let response ← agent.routing.sendAndParse m
  let grant ← readGrant agent.mediator response
  let mediator : Mediator := ⟨← perform .freshId, agent.mediator, host, grant.routingDid⟩
  core (← perform (.storeMediator mediator))
  log (.granted mediator.did mediator.routingDid)
  perform (.hold ⟨mediator, 0⟩)
  return mediator

def current : Program Relationship := do
  match ← perform .held with
  | some relationship => return relationship
  | none => .fail .noMediator

def register (agent : Agent) (dids : List String) : Program Unit := exclusively do
  let relationship ← current
  let mediator := relationship.mediator
  let m ← requestMessage (.registration dids) mediator.host mediator.did
  let _ ← agent.routing.send m
  perform (.hold { relationship with registered := relationship.registered + dids.length })
  log (.registered dids.length mediator.did)

def pickUp (agent : Agent) (limit : UInt32) : Program (List (String × Message)) := do
  let mediator := (← current).mediator
  let m ← requestMessage (.delivery limit) mediator.host mediator.did
  match ← agent.routing.sendAndParse m with
  | none => return []
  | some response => (← ofExcept (MailboxAnswer.ofMessage response)).messages

/-- The waiting messages one by one, as many as are taken. A failure is the only item; nothing
happens before the first item is asked for. -/
def pickUpItems (agent : Agent) (limit : UInt32) (taken : Option Nat) :
    Program (List (Except AgentError (String × Message))) :=
  if taken = some 0 then return []
  else do
    let items := match ← (agent.pickUp limit).attempt with
      | .ok messages => messages.map .ok
      | .error e => [.error e]
    return (taken.map fun count => items.take count).getD items

def acknowledge (agent : Agent) (ids : List String) : Program Unit := do
  let mediator := (← current).mediator
  let m ← requestMessage (.received ids) mediator.host mediator.did
  let _ ← agent.routing.send m

end Agent

end DidMessaging
