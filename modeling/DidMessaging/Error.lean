import DidMessaging.Json.Fault
import DidMessaging.Text.Base64

namespace DidMessaging

inductive Error where
  | noRecipient
  | noSender
  | invalidFormat (reason : String)
  | base64 (fault : Text.Base64.Fault)
  | missingMember (name : String)
  | invalidDid (did : String)
  | resolution (reason : String)
  | json (fault : Json.Fault)
  | encryption (reason : String)
  | decryption (reason : String)
  | transport (url reason : String)
  | storage (reason : String)
  deriving DecidableEq, Repr

def Error.message : Error → String
  | .noRecipient => "No DID receiver set on message"
  | .noSender => "No DID sender set on message"
  | .invalidFormat reason => s!"Invalid format: {reason}"
  | .base64 fault => s!"Base64 decode error: {fault.message}"
  | .missingMember name => s!"Missing required field: {name}"
  | .invalidDid did => s!"Invalid DID string: {did}"
  | .resolution reason => s!"DID resolution error: {reason}"
  | .json fault => fault.message
  | .encryption reason => s!"Encryption error: {reason}"
  | .decryption reason => s!"Decryption error: {reason}"
  | .transport url reason => s!"Transport error for {url}: {reason}"
  | .storage reason => s!"Storage error: {reason}"

inductive AgentError where
  | core (error : Error)
  | alreadyReceived (id : String)
  | noService (did : Option String)
  | mediatorChain (mediator endpoint : String)
  | wrongType (found expected : String)
  | noMediator
  | http
  | websocket
  | invalidEndpoint (endpoint : String)
  | json (fault : Json.Fault)
  deriving DecidableEq, Repr

def AgentError.message : AgentError → String
  | .core error => s!"Core error: {error.message}"
  | .alreadyReceived id => s!"Message {id} was received and must be re-wrapped before sending"
  | .noService none => "No valid service found"
  | .noService (some did) => s!"No valid service found for {did}"
  | .mediatorChain mediator endpoint =>
    s!"Mediator {mediator} routes through {endpoint}; chained mediation is not supported"
  | .wrongType found expected => s!"Invalid message type {found}, should be {expected}"
  | .noMediator => "No mediator available"
  | .http => "HTTP error"
  | .websocket => "Websocket error"
  | .invalidEndpoint endpoint => s!"Invalid endpoint {endpoint}"
  | .json fault => s!"Serialization error: {fault.message}"

end DidMessaging
