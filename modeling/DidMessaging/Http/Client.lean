import DidMessaging.Error
import DidMessaging.Http.Basic
import DidMessaging.Url.Web

namespace DidMessaging

structure ClientConfig where
  timeout : UInt64 := 30
  userAgent : String := "wallet-didcomm/0.1.0"
  deriving DecidableEq, Repr

open Json in
def ClientConfig.shape : Shape ClientConfig :=
  .record "HttpTransportConfig"
    (.cons (.required "timeout_secs" .count) <|
      .cons (.required "user_agent" .text) .nil)
    (fun (timeout, userAgent, _) => ⟨timeout, userAgent⟩)
    (fun c => (c.timeout, c.userAgent, ()))

def isHeaderValue (s : String) : Bool :=
  s.toList.all fun c => c = '\t' || (32 ≤ c.toNat && c.toNat ≠ 127)

def isHeaderName (s : String) : Bool :=
  !s.isEmpty && s.toList.all fun c =>
    c.isAlphanum || "!#$%&'*+-.^_\x60|~".toList.contains c

structure Client where
  userAgent : Option String
  deriving DecidableEq, Repr

structure Wire where
  line : String
  headers : List (String × String)
  body : String
  deriving DecidableEq, Repr

inductive Peer where
  | absent
  | breaksOff
  | answers (response : Response)
  deriving DecidableEq

structure Exchange where
  received : Option Wire
  result : Except Error Response

namespace Client

def make (config : ClientConfig) : Except AgentError Client :=
  if isHeaderValue config.userAgent then .ok ⟨some config.userAgent⟩ else .error .http

def target (url : Url.WebUrl) (query : List Field) : String :=
  let given := url.query.getD []
  let added := (Url.formQuery (query.map fun f => (f.key, f.value))).toList
  let joined :=
    if given.isEmpty then added else if added.isEmpty then given else given ++ '&' :: added
  String.ofList <| url.path.flatMap (fun segment => '/' :: segment) ++
    if joined.isEmpty then [] else '?' :: joined

def headers (client : Client) (request : Request) : List (String × String) :=
  let given := request.headers.map fun f => (f.key.toLower, f.value)
  let lacks (name : String) : Bool := !given.any fun (key, _) => key = name
  let agent := if lacks "user-agent" then
    (client.userAgent.map fun value => ("user-agent", value)).toList else []
  let length := (request.body.getD "").utf8ByteSize
  let size := if 0 < length ∧ lacks "content-length" then
    [("content-length", toString length)] else []
  given ++ agent ++ size

def wire? (client : Client) (request : Request) : Option Wire := do
  let url ← Url.WebUrl.parse request.url
  let areSendable := request.headers.all fun f => isHeaderName f.key && isHeaderValue f.value
  if url.scheme = .http ∧ areSendable then
    return {
      line := s!"{request.method.name} {target url request.query} HTTP/1.1"
      headers := client.headers request
      body := request.body.getD "" }
  else none

/-- A status is no failure; to get no whole answer is one. -/
def exchange (client : Client) (peer : Peer) (request : Request) : Exchange :=
  let failure (reason : String) : Except Error Response := .error (.transport request.url reason)
  match client.wire? request, peer with
  | none, _ => ⟨none, failure "invalid request"⟩
  | some _, .absent => ⟨none, failure "nobody answers"⟩
  | some wire, .breaksOff => ⟨some wire, failure "connection closed"⟩
  | some wire, .answers response => ⟨some wire, .ok response⟩

end Client

end DidMessaging
