import LightSync.Proofs.Hub

/-!
# Which lights a command reaches

A command reaches a light by the path of the light, or by the path of a group for which the light
is stored. A bridge delivers if every command that it accepts is received by exactly the lights
that it reaches.

## Main definitions

- `Reaches`: whom a path reaches
- `Hub.sent`, `Hub.Accepts`: a command that is sent to a path
- `Hub.Delivers`: who receives it
- `Hub.Candid`: a bridge that lists what it has stored
-/

namespace LightSync.Reconciler

open Bridge

/-! ## Paths of commands -/

/-- The group whose lights a path of commands is for. -/
def actionGroup? (path : String) : Option String :=
  let chars := path.toList
  let start := chars.length - "/action".toList.length
  if chars.drop start = "/action".toList then some (.ofList (chars.take start)) else none

/-- A command sent to a path reaches a light: the path is the light's own, or it is for a group
whose stored lights it is one of. -/
def Reaches (stored : String → NameSet) (path light : String) : Prop :=
  path = "/lights/" ++ light ++ "/state" ∨ ∃ group ∈ actionGroup? path, light ∈ stored group

instance (stored : String → NameSet) (path light : String) :
    Decidable (Reaches stored path light) :=
  inferInstanceAs (Decidable (_ ∨ _))

variable {stored : String → NameSet} {light : String}

theorem actionGroup?_action (group : String) : actionGroup? (group ++ "/action") = some group := by
  simp only [actionGroup?, String.toList_append, List.length_append, Nat.add_sub_cancel,
    List.drop_left, List.take_left, String.ofList_toList, if_true]

/-- The path of a light is not for a group: its last letter differs. -/
theorem actionGroup?_state (light : String) :
    actionGroup? ("/lights/" ++ light ++ "/state") = none := by
  simp only [actionGroup?]
  split
  · next tail =>
    have last := congrArg List.getLast? (List.take_append_drop
      (("/lights/" ++ light ++ "/state").toList.length - "/action".toList.length)
      ("/lights/" ++ light ++ "/state").toList)
    rw [tail, String.toList_append, List.getLast?_append, List.getLast?_append] at last
    cases last
  · rfl

theorem reaches_state_iff {other : String} :
    Reaches stored ("/lights/" ++ other ++ "/state") light ↔ light = other := by
  rw [Reaches, actionGroup?_state, String.append_left_inj, String.append_right_inj]
  simp [eq_comm]

theorem reaches_action_iff {group : String} :
    Reaches stored (group ++ "/action") light ↔ light ∈ stored group := by
  have own : group ++ "/action" ≠ "/lights/" ++ light ++ "/state" := fun same =>
    nomatch (actionGroup?_action group).symm.trans
      ((congrArg actionGroup? same).trans (actionGroup?_state light))
  simp [Reaches, actionGroup?_action, own]

/-! ## Bridges that deliver -/

namespace Hub

variable {β : Type}

/-- The bridge after a command was sent to a path. -/
def sent (hub : Hub β) (b : β) (path : String) (command : Command) : β :=
  (hub.take b (.put path command.toJson)).1

/-- The bridge would accept a command for a path. -/
def Accepts (hub : Hub β) (b : β) (path : String) (command : Command) : Prop :=
  ∃ response, (hub.take b (.put path command.toJson)).2 = .ok response ∧ response.status = 200

/-- A command that is accepted is received by the lights that it reaches, and by no others. What
each light received so far is told in order. -/
def Delivers (hub : Hub β) (told : β → String → List Command) : Prop :=
  ∀ b path command, hub.Accepts b path command → ∀ light,
    told (hub.sent b path command) light =
      if Reaches (hub.stored b) path light then told b light ++ [command] else told b light

/-- A listing of the groups shows the lights that are stored. -/
def Candid (hub : Hub β) : Prop :=
  ∀ b response groups, (hub.take b (.get "/groups")).2 = .ok response →
    Group.ofListing response.body = .ok groups →
    ∀ g ∈ groups, g.lights.value = some (hub.stored b g.path)

variable {hub : Hub β} {told : β → String → List Command}

/-- A command changes no membership. -/
theorem Faithful.stored_sent (h : hub.Faithful) (b : β) (path : String) (command : Command) :
    hub.stored (hub.sent b path command) = hub.stored b := by
  funext group
  rcases h.stored b (.values path command) group with same | ⟨_, _, no⟩
  · exact same
  · cases no

/-- A command that is sent to a group is received by the lights that are stored for it. -/
theorem Delivers.told_group (delivers : hub.Delivers told) {command : Command} {b : β} {g : Group}
    (accepted : hub.Accepts b g.actionPath command) (light : String) :
    told (hub.sent b g.actionPath command) light =
      if light ∈ hub.stored b g.path then told b light ++ [command] else told b light := by
  have reaches : Reaches (hub.stored b) g.actionPath light ↔ light ∈ hub.stored b g.path :=
    reaches_action_iff
  rw [delivers b g.actionPath command accepted light]
  simp only [reaches]

end Hub
end LightSync.Reconciler
