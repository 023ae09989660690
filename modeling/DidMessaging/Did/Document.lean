import DidMessaging.Json.Record

namespace DidMessaging

open Json

/-- Where a service is reached: an address or the DID of another agent. -/
structure Endpoint where
  uri : String
  accept : List String := []
  routingKeys : List String := []
  deriving DecidableEq, Repr

structure Service where
  id : String
  types : List String
  endpoint : Endpoint
  deriving DecidableEq, Repr

structure Document where
  id : String
  services : List Service := []
  deriving DecidableEq, Repr

structure Mediator where
  id : String
  did : String
  host : String
  routingDid : String
  deriving DecidableEq, Repr

def Service.hasType (service : Service) (type : String) : Bool := service.types.contains type

def Document.service? (document : Document) (type : String) : Option Service :=
  document.services.find? fun service => service.hasType type

def Endpoint.shape : Shape Endpoint :=
  .record "ServiceEndpoint"
    (.cons (.required "uri" .text) <|
      .cons (.whenFilled "accept" .text) <|
      .cons (.whenFilled "routingKeys" .text) .nil)
    (fun (uri, accept, routingKeys, _) => ⟨uri, accept, routingKeys⟩)
    (fun e => (e.uri, e.accept, e.routingKeys, ()))

def Service.shape : Shape Service :=
  .record "Service"
    (.cons (.required "id" .text) <|
      .cons (.required "type" Shape.text.list) <|
      .cons (.required "serviceEndpoint" Endpoint.shape) .nil)
    (fun (id, types, endpoint, _) => ⟨id, types, endpoint⟩)
    (fun s => (s.id, s.types, s.endpoint, ()))

def Document.shape : Shape Document :=
  .record "DIDDocument"
    (.cons (.required "id" .text) <|
      .cons (.withDefault "service" Service.shape.list []) .nil)
    (fun (id, services, _) => ⟨id, services⟩)
    (fun d => (d.id, d.services, ()))

def Mediator.shape : Shape Mediator :=
  .record "Mediator"
    (.cons (.required "id" .text) <|
      .cons (.required "mediatorDID" .text) <|
      .cons (.required "hostDID" .text) <|
      .cons (.required "routingDID" .text) .nil)
    (fun (id, did, host, routingDid, _) => ⟨id, did, host, routingDid⟩)
    (fun m => (m.id, m.did, m.host, m.routingDid, ()))

end DidMessaging
