import DidMessaging.Json.Record

namespace DidMessaging

open Json

inductive Method where
  | get
  | post
  deriving DecidableEq, Repr

def Method.name : Method → String
  | .get => "GET"
  | .post => "POST"

def Method.shape : Shape Method := .choice Method.name [.get, .post]

structure Field where
  key : String
  value : String
  deriving DecidableEq, Repr

def Field.shape : Shape Field :=
  .record "KeyValue"
    (.cons (.required "key" .text) <|
      .cons (.required "value" .text) .nil)
    (fun (key, value, _) => ⟨key, value⟩)
    (fun f => (f.key, f.value, ()))

structure Request where
  method : Method
  url : String
  query : List Field := []
  headers : List Field := []
  body : Option String := none
  deriving DecidableEq, Repr

def Request.post (url body : String) : Request where
  method := .post
  url := url
  body := some body

def Request.withHeader (request : Request) (key value : String) : Request :=
  { request with headers := request.headers ++ [⟨key, value⟩] }

/-- Without a status of its own a response has status 0. -/
structure Response where
  status : UInt16 := 0
  body : List UInt8 := []
  deriving DecidableEq

def Response.isError (response : Response) : Bool := 400 ≤ response.status

def Response.isDefault (response : Response) : Bool := response = {}

end DidMessaging
