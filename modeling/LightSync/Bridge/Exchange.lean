import LightSync.Failure
import LightSync.Json.Reader

/-!
# Exchanges with the bridge

A request is a GET or a PUT of a path; the bridge answers with a status and a JSON body, or the
exchange fails. A body that is no JSON is kept as a string, so that the error pages of proxies stay
readable.

## Main definitions

- `Method`, `Request`, `Response`, `Answer`
- `Answer.accepted`: an answer of status 200
- `Response.ofText`: from a status and the text of a body
-/

namespace LightSync.Bridge

inductive Method where
  | get
  | put
deriving DecidableEq, Repr

def Method.name : Method → String
  | get => "GET"
  | put => "PUT"

/-- A request; a GET has null for its body. -/
structure Request where
  method : Method
  path : String
  body : Json

namespace Request

def get (path : String) : Request := ⟨.get, path, .null⟩

def put (path : String) (body : Json) : Request := ⟨.put, path, body.canonical⟩

end Request

structure Response where
  status : Nat
  body : Json

namespace Response

def isOk (r : Response) : Bool := r.status == 200

/-- The answer with the given text for its body. -/
def ofText (status : Nat) (text : String) : Response :=
  ⟨status, (Json.valueOfText? text).getD (.str text)⟩

end Response

abbrev Answer := Except Failure Response

/-- An answer to a request, if its status is 200. -/
def Answer.accepted (request : Request) (answer : Answer) : Answer := do
  let response ← answer
  if response.isOk then return response
  else throw (.ofStatus request.method.name request.path response.status response.body)

end LightSync.Bridge
