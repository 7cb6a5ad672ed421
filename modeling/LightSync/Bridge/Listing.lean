import LightSync.Bridge.Order
import LightSync.Failure
import LightSync.Json.Record

/-!
# Listings

The bridge lists lights and groups as an object from numbers to records. A listing is decoded as a
whole: it fails if it is no object, or if one of its records does not decode. The result is in
bridge order whatever the order of the members.

## Main definitions

- `listing`: the entries of a listing
-/

namespace LightSync.Bridge

/-- Members by key, the last of equal keys kept. -/
def distinctMembers (members : List (String × Json)) : List (String × Json) :=
  members.foldl (fun done (k, v) => Json.insertMember k v done) []

/-- The entries of a listing of the named resource, in bridge order. -/
def listing (resource : String) (decode : String → Json → Option α) (number : α → String) :
    Json → Except Failure (List α)
  | .obj members =>
    match (distinctMembers members).mapM fun (k, record) => decode k record with
    | some entries => .ok (sortByNumber number entries)
    | none => .error (.undecodable resource (.obj members))
  | _ => .error (.malformedListing resource)

end LightSync.Bridge
