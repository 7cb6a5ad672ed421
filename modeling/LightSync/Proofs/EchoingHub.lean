import LightSync.Proofs.Hub
import LightSync.Simulation.Script

/-!
# A bridge that echoes

The rule by which the simulated bridge confirms writes confirms exactly the attributes that were
sent. A bridge that stores the memberships it is sent and echoes them is faithful, whether it loses
its replies or not, and as long as it answers it is obliging.

## Main definitions

- `Hub.echoing`: a bridge that stores and echoes, unless it is down
-/

namespace LightSync

open Bridge Json
open Simulation (echo)

/-! ## Echoes -/

theorem ofBody?_echo {path : String} {members : List (String × Json)}
    (readable : ∀ m ∈ members, m.2.value? = some m.2) :
    Reply.ofBody? (echo path (.obj members)) =
      some ⟨members.map fun m => .success [(path ++ "/" ++ m.1, m.2)]⟩ := by
  rw [Reply.ofBody?, Option.map_eq_some_iff]
  refine ⟨_, ?_, rfl⟩
  rw [echo, list?, mapM_eq_some_iff, List.map_map, List.map_map]
  apply List.map_congr_left
  intro m mem
  have content : (Json.obj [(path ++ "/" ++ m.1, m.2)]).value? =
      some (.obj [(path ++ "/" ++ m.1, m.2)]) := by
    simp [value?, members?, insertMember, readable m mem]
  simp only [Function.comp, ReplyItem.ofJson?, variant?, content]

theorem acknowledged_echo (path name : String) {members : List (String × Json)}
    (once : Ascending (keys members)) :
    (Reply.mk (members.map fun m => .success [(path ++ "/" ++ m.1, m.2)])).acknowledged
      (path ++ "/" ++ name) = lookup name members := by
  -- The reply is searched from its first item, members from the last one: keys that ascend occur
  -- once, so this makes no difference.
  simp only [Reply.acknowledged, List.findSome?_map]
  induction members with
  | nil => rfl
  | cons m rest ih =>
    obtain ⟨k, v⟩ := m
    obtain ⟨head, tail⟩ := List.pairwise_cons.1 once
    have first : lookup (path ++ "/" ++ name) [(path ++ "/" ++ k, v)] =
        if k = name then some v else none := by
      simp only [lookup, String.append_right_inj, Option.none_or]
    rw [List.findSome?_cons, ih tail]
    simp only [Function.comp, first]
    rw [lookup]
    by_cases same : k = name
    · subst same
      have absent : k ∉ keys rest := fun mem => String.lt_irrefl k (head k mem)
      rw [if_pos rfl, lookup_of_not_mem absent]
      rfl
    · rw [if_neg same, Option.or_none]

/-- An echo confirms exactly the attributes of the body. -/
theorem confirms_echo_iff {path name : String} {value : Json} {members : List (String × Json)}
    (once : Ascending (keys members)) (readable : ∀ m ∈ members, m.2.value? = some m.2) :
    (Response.mk 200 (echo path (.obj members))).Confirms (path ++ "/" ++ name) value ↔
      (name, value) ∈ members := by
  rw [← Reconciler.acknowledged_replyOf, Reconciler.replyOf, ofBody?_echo readable,
    Option.getD_some, acknowledged_echo path name once, lookup_eq_some_iff once]

/-! ## Bodies of planned requests -/

theorem keys_attributes (c : Command) :
    (keys c.attributes).Sublist ["bri", "ct", "on", "transitiontime"] := by
  obtain ⟨on, bri, ct, transition⟩ := c
  cases on <;> cases bri <;> cases ct <;> cases transition <;> simp [Command.attributes, keys]

theorem readable_attributes (c : Command) : ∀ m ∈ c.attributes, m.2.value? = some m.2 := by
  rintro ⟨name, value⟩ mem
  simp only [Command.attributes, List.mem_append, Option.mem_toList, Option.map_eq_some_iff] at mem
  rcases mem with ((⟨_, _, same⟩ | ⟨_, _, same⟩) | ⟨_, _, same⟩) | ⟨_, _, same⟩ <;>
    (cases same; rfl)

namespace Reconciler

/-- A planned write sends an object in canonical form. -/
theorem Plan.body_of_put {plan : Plan} (write : plan.request.method = .put) :
    ∃ members, plan.request.body = .obj members ∧ Ascending (keys members) ∧
      (∀ m ∈ members, m.2.value? = some m.2) ∧
      ("lights" ∈ keys members → ∃ kind path lights, plan = .membership kind path lights) := by
  have command (c : Command) : Ascending (keys c.attributes) ∧
      (∀ m ∈ c.attributes, m.2.value? = some m.2) ∧ "lights" ∉ keys c.attributes := by
    refine ⟨List.Pairwise.sublist (keys_attributes c) (by decide), readable_attributes c, ?_⟩
    intro mem
    exact absurd ((keys_attributes c).subset mem) (by decide)
  cases plan with
  | membership kind path lights =>
    exact ⟨_, canonical_roster lights.toList, List.pairwise_singleton _ _,
      List.forall_mem_singleton.2 (value?_strings lights.toList),
      fun _ => ⟨kind, path, lights, rfl⟩⟩
  | allOff c =>
    obtain ⟨once, readable, absent⟩ := command c
    exact ⟨_, canonical_command c, once, readable, fun mem => absurd mem absent⟩
  | values path c =>
    obtain ⟨once, readable, absent⟩ := command c
    exact ⟨_, canonical_command c, once, readable, fun mem => absurd mem absent⟩
  | loadLights => cases write
  | loadGroups => cases write

theorem Plan.body_of_get {plan : Plan} (read : plan.request.method = .get) :
    plan.request.body = .null := by
  cases plan with
  | loadLights => rfl
  | loadGroups => rfl
  | _ => cases read

namespace Hub

/-- A bridge with fixed listings that stores the memberships it is sent, and confirms every write.
While it is down its replies are lost. -/
def echoing (lights groups : List (String × Json)) : Hub (Bool × (String → NameSet)) where
  take memory request :=
    let stored := match (request.body.field? "lights").bind strings? with
      | some names => fun path => if path = request.path then .ofList names else memory.2 path
      | none => memory.2
    let body := match request.method with
      | .get => .obj (if request.path = "/lights" then lights else groups)
      | .put => echo request.path request.body
    let answer := if memory.1 then .ok ⟨200, body⟩
      else .error (.ofStatus request.method.name request.path 503 .null)
    ((memory.1, stored), answer)
  stored memory := memory.2

variable {lights groups : List (String × Json)}

theorem up_of_answer {memory : Bool × (String → NameSet)} {request : Request} {response : Response}
    (answered : ((echoing lights groups).take memory request).2 = .ok response) :
    memory.1 = true ∧ response.status = 200 ∧ response.body = match request.method with
      | .get => .obj (if request.path = "/lights" then lights else groups)
      | .put => echo request.path request.body := by
  simp only [echoing] at answered
  split at answered
  · next up =>
    cases answered
    exact ⟨up, rfl, rfl⟩
  · cases answered

theorem faithful_echoing (lights groups : List (String × Json)) :
    (echoing lights groups).Faithful where
  stored memory plan path := by
    cases method : plan.request.method with
    | get =>
      refine .inl ?_
      simp only [echoing, Plan.body_of_get method]
      rfl
    | put =>
      obtain ⟨members, body, once, -, sent⟩ := Plan.body_of_put method
      simp only [echoing, body, field?]
      split
      · next names named =>
        obtain ⟨value, found, -⟩ := Option.bind_eq_some_iff.1 named
        -- Only a membership has lights for an attribute.
        have mem : "lights" ∈ keys members :=
          List.mem_map_of_mem ((lookup_eq_some_iff once).1 found)
        obtain ⟨kind, target, membership, rfl⟩ := sent mem
        by_cases there : path = target
        · subst there
          exact .inr ⟨kind, membership, rfl⟩
        · exact .inl (if_neg there)
      · exact .inl rfl
  honest memory plan response names answered confirms := by
    obtain ⟨-, ok, replied⟩ := up_of_answer answered
    obtain ⟨status, body⟩ := response
    cases ok
    cases replied
    cases method : plan.request.method with
    | get =>
      rw [method] at confirms
      obtain ⟨reply, -, -, -, listing, -⟩ := confirms
      cases listing
    | put =>
      obtain ⟨members, body, once, readable, -⟩ := Plan.body_of_put method
      rw [method, body] at confirms
      have mem : ("lights", strings names) ∈ members := by
        refine (@confirms_echo_iff plan.request.path "lights" _ _ once readable).1 ?_
        rw [String.append_assoc]
        exact confirms
      have named : ((plan.request.body.field? "lights").bind strings?) = some names := by
        rw [body, field?, (lookup_eq_some_iff once).2 mem]
        exact strings?_eq_some_iff.2 rfl
      simp only [echoing, named, if_pos]

/-- While it is up, the bridge is obliging, if its listings are well-formed. -/
theorem obliging_echoing (lightsListed : ¬ Unlisted Light.ofRecord? (.obj lights))
    (groupsListed : ¬ Unlisted Group.ofRecord? (.obj groups)) :
    (echoing lights groups).Obliging (·.1 = true) where
  next _ _ up := up
  ok memory plan up := ⟨⟨200, _⟩, if_pos up, rfl⟩
  lights memory response _ answered := by
    rw [(up_of_answer answered).2.2]
    exact lightsListed
  groups memory response _ answered := by
    rw [(up_of_answer answered).2.2]
    exact groupsListed
  echo memory plan response members _ answered body name value mem := by
    obtain ⟨-, ok, replied⟩ := up_of_answer answered
    obtain ⟨status, given⟩ := response
    cases ok
    cases replied
    cases method : plan.request.method with
    | get => exact nomatch (Plan.body_of_get method).symm.trans body
    | put =>
      obtain ⟨sent, same, once, readable, -⟩ := Plan.body_of_put method
      cases same.symm.trans body
      simp only [body]
      exact (confirms_echo_iff once readable).2 mem

end Hub
end Reconciler
end LightSync
