import LightSync.Json.Printer

/-!
# What can go wrong

The causes for which an exchange with the bridge, a listing or a call to the home platform fails,
and the text that reports each.

Some causes are put into words by a library: by the one that carries the requests, whose words come
with the failure, or by the one that decodes JSON. What the latter says about a value is for it to
choose, so these words are a parameter of the text, and no failure depends on them.

## Main definitions

- `Wording`: the words for a value that does not decode
- `Failure`, `Failure.message`
- `Failure.isTransient`: may the next attempt succeed?
-/

namespace LightSync

/-- How the JSON library words that a value does not decode as what it was read as. -/
abbrev Wording := String → Json → String

/-- The wording that only names what the value was read as. -/
def Wording.brief : Wording := fun readAs _ => s!"not {readAs}"

inductive Failure where
  /-- A value could not be written as JSON, for a cause in the words of the JSON library. -/
  | unwritable (cause : String)
  /-- A JSON value does not decode as what it was read as. -/
  | undecodable (readAs : String) (value : Json)
  /-- The request could not be completed, for a cause in the words of the HTTP library. -/
  | transport (cause : String)
  /-- The bridge answered with another status than 200; the body is shown as JSON text. -/
  | status (method path : String) (status : Nat) (body : String)
  /-- A listing of lights or groups is no JSON object. -/
  | malformedListing (resource : String)
  | unknownEntity (entityId : String)
  /-- The home platform refused a call. -/
  | host (message : String)

namespace Failure

/-- An answer with a status other than 200. -/
def ofStatus (method path : String) (status : Nat) (body : Json) : Failure :=
  .status method path status body.write

def message (wording : Wording) : Failure → String
  | unwritable cause => s!"failed to dump json: {cause}"
  | undecodable readAs value => s!"failed to load json: {wording readAs value}"
  | transport cause => s!"bridge transport error: {cause}"
  | status method path code body => s!"{method} {path} returned {code}: {body}"
  | malformedListing resource => s!"malformed {resource} listing"
  | unknownEntity entityId => s!"unknown entity {entityId}"
  | host message => s!"host call failed: {message}"

/-- Failures that a later attempt may not meet again. -/
def isTransient : Failure → Bool
  | transport _ => true
  | status .. => true
  | _ => false

end Failure
end LightSync
