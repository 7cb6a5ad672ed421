import LightSync.Proofs.Delivery
import LightSync.Proofs.EchoingHub

/-!
# A bridge that keeps a record

A bridge that stores memberships and echoes what it is sent, lists what it has stored, and records
the commands that each light receives. It is faithful, candid, and delivers.

## Main definitions

- `Ledger`: what is stored for each group, and what each light was told
- `Hub.recording`: the bridge
-/

namespace LightSync

open Bridge Json

namespace Bridge

/-- A command can be read from the body that is sent for it. -/
theorem Command.ofJson?_canonical (c : Command) : Command.ofJson? c.toJson.canonical = some c := by
  have byte (v : UInt8) : (Json.int v.toNat).uint8? = some v := uint8?_eq_some_iff.2 rfl
  have word (v : UInt16) : (Json.int v.toNat).uint16? = some v := uint16?_eq_some_iff.2 rfl
  have flag (v : Bool) : (Json.bool v).bool? = some v := rfl
  rw [canonical_command]
  obtain ⟨on, bri, ct, transition⟩ := c
  cases on <;> cases bri <;> cases ct <;> cases transition <;>
    simp [Command.ofJson?, Command.attributes, slots?, slot?, Slot.optional, nullable?, ofNat,
      byte, word, flag]

end Bridge

namespace Reconciler

/-- What is stored for the path of each group, and what each light was told, oldest first. -/
structure Ledger where
  stored : String → NameSet
  told : String → List Command

namespace Hub

/-- The listing of some groups with the lights that are stored for them. -/
def listingOf (names : List (String × String)) (stored : String → NameSet) :
    List (String × Json) :=
  names.map fun (number, name) => (number, .obj [
    ("name", .str name), ("lights", strings (stored ("/groups/" ++ number)).toList)])

/-- A bridge with some groups, told by their numbers and names, and no listed lights. -/
def recording (names : List (String × String)) : Hub Ledger where
  take ledger request :=
    let taken := (echoing [] (listingOf names ledger.stored)).take (true, ledger.stored) request
    let told := match request.method, Command.ofJson? request.body with
      | .put, some command => fun light =>
        if Reaches ledger.stored request.path light then ledger.told light ++ [command]
        else ledger.told light
      | _, _ => ledger.told
    (⟨taken.1.2, told⟩, taken.2)
  stored ledger := ledger.stored

variable (names : List (String × String))

theorem faithful_recording : (recording names).Faithful where
  stored ledger :=
    (faithful_echoing [] (listingOf names ledger.stored)).stored (true, ledger.stored)
  honest ledger :=
    (faithful_echoing [] (listingOf names ledger.stored)).honest (true, ledger.stored)

theorem delivers_recording : (recording names).Delivers Ledger.told := by
  intro ledger path command _ light
  have read : Command.ofJson? (Request.put path command.toJson).body = some command :=
    Command.ofJson?_canonical command
  simp only [sent, recording, read]
  rfl

/-- A record of the listing shows the lights that are stored for its group. -/
theorem lights_of_listingOf {stored : String → NameSet} {number : String} {record : Json}
    {g : Group} (found : lookup number (listingOf names stored) = some record)
    (decoded : Group.ofRecord? number record = some g) :
    g.lights.value = some (stored g.path) := by
  obtain ⟨⟨_, name⟩, -, same⟩ := List.mem_map.1 (mem_of_lookup found)
  obtain ⟨rfl, rfl⟩ := (Prod.mk.injEq ..).mp same
  have read (lights : List String) : (strings lights).strings? = some lights :=
    strings?_eq_some_iff.2 rfl
  simp [Group.ofRecord?, slots?, slot?, Slot.withDefault, string?, read] at decoded
  subst decoded
  exact congrArg some (NameSet.ofList_toList _)

theorem candid_recording : (recording names).Candid := by
  intro ledger response groups answered listed g mem
  have echoed : ((echoing [] (listingOf names ledger.stored)).take (true, ledger.stored)
      (.get "/groups")).2 = .ok response := answered
  obtain ⟨-, -, body⟩ := up_of_answer echoed
  have shown : response.body = .obj (listingOf names ledger.stored) := body
  rw [shown] at listed
  obtain ⟨number, record, found, decoded⟩ := mem_of_listing listed mem
  exact lights_of_listingOf names found decoded

end Hub
end Reconciler
end LightSync
