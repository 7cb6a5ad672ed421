import LightSync.Proofs.Reading

/-!
# Bridges that store what they confirm

A faithful bridge stores the memberships that it is sent and confirms nothing else, but it may
refuse a request, or lose the reply to one that it carried out. An obliging one answers everything
and confirms every attribute, so no step fails.

## Main definitions

- `Hub`: a bridge that stores memberships
- `Hub.Faithful`, `Hub.Obliging`
- `Hub.losing`: a bridge whose next replies to writes are lost
-/

namespace LightSync

theorem NameSet.ofList_toList (lights : NameSet) : .ofList lights.toList = lights :=
  NameSet.ext fun _ => NameSet.mem_ofList

namespace Bridge

/-! ## Bodies of requests -/

theorem value?_strings (names : List String) :
    (Json.strings names).value? = some (.strings names) := by
  have items : Json.values? (names.map .str) = some (names.map .str) := by
    induction names with
    | nil => rfl
    | cons n rest ih => simp [Json.values?, Json.value?, ih]
  simp [Json.strings, Json.value?, items]

theorem canonical_roster (names : List String) :
    (Roster.toJson ⟨names⟩).canonical = .obj [("lights", .strings names)] := by
  simp [Roster.toJson, Json.canonical, Json.value?, Json.members?, Json.insertMember,
    value?_strings]

/-- The attributes of a command, ascending by name. -/
def Command.attributes (c : Command) : List (String × Json) :=
  (c.bri.map fun v => ("bri", Json.ofNat v.toNat)).toList ++
  (c.ct.map fun v => ("ct", Json.ofNat v.toNat)).toList ++
  (c.on.map fun v => ("on", Json.bool v)).toList ++
  (c.transition.map fun v => ("transitiontime", Json.ofNat v.toNat)).toList

theorem canonical_command (c : Command) : c.toJson.canonical = .obj c.attributes := by
  obtain ⟨on, bri, ct, transition⟩ := c
  cases on <;> cases bri <;> cases ct <;> cases transition <;> rfl

end Bridge

namespace Reconciler

open Bridge

/-- A bridge as the reconciler meets it: it takes requests one after the other, and has a
membership stored for the path of each group. -/
structure Hub (β : Type) where
  take : β → Request → β × Answer
  stored : β → String → NameSet

/-- The update confirms everything that the request carries. -/
def Plan.ConfirmedBy : Plan → Update → Prop
  | .allOff _, u => u = .allOff
  | .loadLights, u => ∃ lights, u = .lights lights
  | .loadGroups, u => ∃ groups, u = .groups groups
  | .membership kind path lights, u => u = .membership kind path (some lights)
  | .values _ command, u => ∃ bri ct, u = .values bri ct ∧
    (∀ v, command.bri = some v → bri = some v) ∧ ∀ v, command.ct = some v → ct = some v

namespace Hub

variable {β : Type}

/-- What is stored for a path changes only when a membership is sent there, and a membership is
confirmed only if it is stored. The bridge need not answer. -/
structure Faithful (hub : Hub β) : Prop where
  stored : ∀ b (plan : Plan) path,
    hub.stored (hub.take b plan.request).1 path = hub.stored b path ∨
    ∃ kind lights, plan = .membership kind path lights
  honest : ∀ b (plan : Plan) response names, (hub.take b plan.request).2 = .ok response →
    response.Confirms (plan.request.path ++ "/lights") (.strings names) →
    hub.stored (hub.take b plan.request).1 plan.request.path = .ofList names

/-- As long as the bridge is in a good state, it stays in one, answers everything with status 200,
lists well-formed objects, and confirms every attribute that it is sent. -/
structure Obliging (hub : Hub β) (good : β → Prop) : Prop where
  next : ∀ b (plan : Plan), good b → good (hub.take b plan.request).1
  ok : ∀ b (plan : Plan), good b →
    ∃ response, (hub.take b plan.request).2 = .ok response ∧ response.status = 200
  lights : ∀ b response, good b → (hub.take b (.get "/lights")).2 = .ok response →
    ¬ Unlisted Light.ofRecord? response.body
  groups : ∀ b response, good b → (hub.take b (.get "/groups")).2 = .ok response →
    ¬ Unlisted Group.ofRecord? response.body
  echo : ∀ b (plan : Plan) response members, good b →
    (hub.take b plan.request).2 = .ok response → plan.request.body = .obj members →
    ∀ name value, (name, value) ∈ members →
      response.Confirms (plan.request.path ++ "/" ++ name) value

variable {hub : Hub β} {good : β → Prop} {b : β}

/-! ## Answers of obliging bridges -/

/-- No step fails with an obliging bridge. -/
theorem Obliging.reads (h : hub.Obliging good) (now : good b) (plan : Plan) :
    ∃ u, plan.Reads (hub.take b plan.request).2 u := by
  cases outcome : plan.read (hub.take b plan.request).2 with
  | ok u => exact ⟨u, Plan.read_eq_ok_iff.1 outcome⟩
  | error failure =>
    -- What cannot be read is refused, and an obliging bridge gives no cause to refuse anything.
    obtain ⟨response, answered, ok⟩ := h.ok b plan now
    have refused := Plan.read_eq_error_iff.1 ⟨failure, outcome⟩
    rw [answered] at refused
    cases refused with
    | status other bad => exact absurd ok bad
    | lights bad => exact absurd bad (h.lights b response now answered)
    | groups bad => exact absurd bad (h.groups b response now answered)

/-- An obliging bridge confirms everything that it is sent. -/
theorem Obliging.confirmed (h : hub.Obliging good) (now : good b) {plan : Plan} {u : Update}
    (reads : plan.Reads (hub.take b plan.request).2 u) : plan.ConfirmedBy u := by
  obtain ⟨response, answered⟩ := reads.ok
  have echo (members) := h.echo b plan response members now answered
  rw [answered] at reads
  cases reads with
  | allOff command => rfl
  | lights ok listed => exact ⟨_, rfl⟩
  | groups ok listed => exact ⟨_, rfl⟩
  | membership kind path lights ok =>
    have confirms := echo _ (canonical_roster lights.toList) "lights" (.strings lights.toList)
      (List.mem_singleton.2 rfl)
    rw [String.append_assoc] at confirms
    exact congrArg (Update.membership kind path)
      (confirmedMembership_eq_some_iff.2 ⟨_, confirms, NameSet.ofList_toList lights⟩)
  | values path command ok =>
    have confirms := echo _ (canonical_command command)
    refine ⟨_, _, rfl, ?_, ?_⟩
    · intro v carried
      have here := confirms "bri" (.ofNat v.toNat) (by simp [Command.attributes, carried])
      rw [String.append_assoc] at here
      exact confirmedBrightness_eq_some_iff.2 here
    · intro v carried
      have here := confirms "ct" (.ofNat v.toNat) (by simp [Command.attributes, carried])
      rw [String.append_assoc] at here
      exact confirmedColorTemp_eq_some_iff.2 here

/-! ## Lost replies -/

/-- The bridge, where the next so many replies to writes are lost. The writes are carried out. -/
def losing (hub : Hub β) : Hub (Nat × β) where
  take memory request :=
    let taken := hub.take memory.2 request
    match request.method, memory.1 with
    | .put, lost + 1 => ((lost, taken.1), .error (.transport "connection closed"))
    | _, left => ((left, taken.1), taken.2)
  stored memory := hub.stored memory.2

theorem memory_losing (hub : Hub β) (memory : Nat × β) (request : Request) :
    (hub.losing.take memory request).1.2 = (hub.take memory.2 request).1 := by
  simp only [losing]
  split <;> rfl

theorem answer_of_losing {memory : Nat × β} {request : Request} {response : Response}
    (answered : (hub.losing.take memory request).2 = .ok response) :
    (hub.take memory.2 request).2 = .ok response := by
  simp only [losing] at answered
  split at answered
  · cases answered
  · exact answered

/-- Once no more replies are lost, the bridge is as it was. -/
theorem losing_of_none_left (hub : Hub β) (b : β) (request : Request) :
    hub.losing.take (0, b) request = ((0, (hub.take b request).1), (hub.take b request).2) := by
  simp only [losing]
  split
  · next none => cases none
  · rfl

/-- A faithful bridge may lose replies. -/
theorem Faithful.losing (faithful : hub.Faithful) : hub.losing.Faithful where
  stored memory plan path := by
    refine (faithful.stored memory.2 plan path).imp_left fun same => ?_
    rw [← memory_losing] at same
    exact same
  honest memory plan response names answered confirms := by
    have stored := faithful.honest memory.2 plan response names (answer_of_losing answered) confirms
    rw [← memory_losing] at stored
    exact stored

theorem Obliging.losing (obliging : hub.Obliging good) :
    hub.losing.Obliging fun memory => memory.1 = 0 ∧ good memory.2 where
  next := by
    rintro ⟨-, b⟩ plan ⟨rfl, now⟩
    rw [losing_of_none_left]
    exact ⟨rfl, obliging.next b plan now⟩
  ok := by
    rintro ⟨-, b⟩ plan ⟨rfl, now⟩
    rw [losing_of_none_left]
    exact obliging.ok b plan now
  lights memory response now answered :=
    obliging.lights memory.2 response now.2 (answer_of_losing answered)
  groups memory response now answered :=
    obliging.groups memory.2 response now.2 (answer_of_losing answered)
  echo memory plan response members now answered :=
    obliging.echo memory.2 plan response members now.2 (answer_of_losing answered)

end Hub
end Reconciler
end LightSync
