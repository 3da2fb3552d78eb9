import Catalog.Timeout

set_option autoImplicit false

namespace Catalog

inductive Method where
  | get
  | post
  | put
  | delete
  deriving DecidableEq, Repr

def Method.text : Method → String
  | .get => "GET"
  | .post => "POST"
  | .put => "PUT"
  | .delete => "DELETE"

structure Header where
  name : String
  value : String
  deriving DecidableEq, Repr

structure Request where
  method : Method
  url : String
  headers : List Header
  body : Option (List UInt8)
  timeout : Duration
  deriving DecidableEq, Repr

def Request.header? (request : Request) (name : String) : Option String :=
  (request.headers.find? fun header => header.name.toLower == name.toLower).map (·.value)

structure Response where
  status : UInt16
  reason : String
  body : List UInt8
  deriving DecidableEq, Repr

def isSuccess (status : UInt16) : Bool :=
  200 ≤ status && status < 300

def Response.isSuccess (response : Response) : Bool :=
  Catalog.isSuccess response.status

end Catalog
