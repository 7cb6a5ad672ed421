import LightSync.Proofs.Json
import LightSync.Proofs.Order
import LightSync.Reconciler.Update

/-!
# Reading answers

An answer is refused for a handful of causes, and only then the step it belongs to fails. What a
reply confirms is read from its successes: the first one that has the path decides.

## Main definitions

- `Response.Confirms`: a reply confirms a value for a path
- `Plan.Reads`, `Plan.Refuses`: what an answer says, and the causes for which it is refused
-/

namespace LightSync

/-! ## Decoding item by item -/

theorem mapM_eq_some_iff {α β : Type} {f : α → Option β} {items : List α} {results : List β} :
    items.mapM f = some results ↔ items.map f = results.map some := by
  induction items generalizing results with
  | nil => cases results <;> simp
  | cons item rest ih =>
    rw [List.mapM_cons, List.map_cons]
    cases first : f item with
    | none => cases results <;> simp
    | some b =>
      cases results with
      | nil => simp [Option.bind_eq_some_iff]
      | cons c results =>
        rw [List.map_cons, List.cons.injEq, ← ih, Option.some.injEq]
        simp only [Option.bind_eq_bind, Option.bind_some, Option.bind_eq_some_iff]
        constructor
        · rintro ⟨bs, decoded, same⟩
          cases same
          exact ⟨rfl, decoded⟩
        · rintro ⟨rfl, decoded⟩
          exact ⟨results, decoded, rfl⟩

theorem mapM_eq_none_iff {α β : Type} {f : α → Option β} {items : List α} :
    items.mapM f = none ↔ ∃ item ∈ items, f item = none := by
  induction items with
  | nil => simp
  | cons item rest ih =>
    rw [List.mapM_cons]
    cases first : f item with
    | none => simp [first]
    | some b =>
      cases decoded : rest.mapM f with
      | none => simpa [first, decoded] using ih.1 decoded
      | some bs =>
        have fine : ∀ item ∈ rest, f item ≠ none := fun i mem no =>
          nomatch decoded.symm.trans (ih.2 ⟨i, mem, no⟩)
        simpa [first] using fine

theorem toOption_eq_some_iff {ε α : Type} {x : Except ε α} {a : α} :
    x.toOption = some a ↔ x = .ok a := by
  cases x with
  | error e => exact ⟨nofun, nofun⟩
  | ok b => simp [Except.toOption]

theorem bind_eq_ok_iff {ε α β : Type} {x : Except ε α} {f : α → Except ε β} {b : β} :
    (x >>= f) = .ok b ↔ ∃ a, x = .ok a ∧ f a = .ok b := by
  cases x with
  | error e => exact ⟨nofun, nofun⟩
  | ok a => exact ⟨fun h => ⟨a, rfl, h⟩, fun ⟨_, same, h⟩ => by cases same; exact h⟩

theorem bind_eq_error_iff {ε α β : Type} {x : Except ε α} {f : α → Except ε β} :
    (∃ e, (x >>= f) = .error e) ↔
      (∃ e, x = .error e) ∨ ∃ a, x = .ok a ∧ ∃ e, f a = .error e := by
  cases x with
  | error e => exact ⟨fun _ => .inl ⟨e, rfl⟩, fun _ => ⟨e, rfl⟩⟩
  | ok a =>
    constructor
    · intro h
      exact .inr ⟨a, rfl, h⟩
    · rintro (⟨_, no⟩ | ⟨_, same, h⟩)
      · cases no
      · cases same
        exact h

namespace Json

/-- The decoder of lists of strings accepts nothing else. -/
theorem strings?_eq_some_iff {j : Json} {names : List String} :
    j.strings? = some names ↔ j = strings names := by
  have decode (items : List Json) :
      items.map string? = names.map some ↔ items = names.map .str := by
    induction items generalizing names with
    | nil => cases names <;> simp
    | cons item rest ih =>
      cases names with
      | nil => simp
      | cons n names =>
        simp only [List.map_cons, List.cons.injEq, ih]
        cases item <;> simp [string?]
  cases j with
  | arr items =>
    simp only [strings?, list?, mapM_eq_some_iff, decode, strings, arr.injEq]
  | _ => simp [strings?, list?, strings]

/-- A bounded decoder of integers accepts what lies within its bounds. -/
theorem int?_eq_some_iff {lo hi n : Int} {j : Json} :
    int? lo hi j = some n ↔ j = .int n ∧ lo ≤ n ∧ n ≤ hi := by
  cases j with
  | int m =>
    simp only [int?, int.injEq]
    constructor
    · intro h
      split at h
      · rename_i bounds
        cases h
        exact ⟨rfl, bounds⟩
      · cases h
    · rintro ⟨rfl, bounds⟩
      rw [if_pos bounds]
  | _ => simp [int?]

theorem uint8?_eq_some_iff {j : Json} {v : UInt8} : j.uint8? = some v ↔ j = .int v.toNat := by
  simp only [uint8?, Option.map_eq_some_iff, int?_eq_some_iff]
  constructor
  · rintro ⟨n, ⟨rfl, low, high⟩, rfl⟩
    have small : n.toNat < 256 := by omega
    rw [UInt8.toNat_ofNat', Nat.mod_eq_of_lt small, Int.toNat_of_nonneg low]
  · rintro rfl
    have small := v.toNat_lt
    exact ⟨v.toNat, ⟨rfl, by omega, by omega⟩, by simp⟩

theorem uint16?_eq_some_iff {j : Json} {v : UInt16} : j.uint16? = some v ↔ j = .int v.toNat := by
  simp only [uint16?, Option.map_eq_some_iff, int?_eq_some_iff]
  constructor
  · rintro ⟨n, ⟨rfl, low, high⟩, rfl⟩
    have small : n.toNat < 65536 := by omega
    rw [UInt16.toNat_ofNat', Nat.mod_eq_of_lt small, Int.toNat_of_nonneg low]
  · rintro rfl
    have small := v.toNat_lt
    exact ⟨v.toNat, ⟨rfl, by omega, by omega⟩, by simp⟩

end Json

namespace Bridge

/-! ## Replies -/

theorem Answer.accepted_eq_ok_iff {request : Request} {answer : Answer} {response : Response} :
    answer.accepted request = .ok response ↔ answer = .ok response ∧ response.status = 200 := by
  cases answer with
  | error failure => exact ⟨nofun, nofun⟩
  | ok given =>
    have accepts : accepted request (.ok given) =
        if given.isOk then .ok given
        else .error (.ofStatus request.method.name request.path given.status given.body) := rfl
    rw [accepts]
    by_cases fine : given.isOk = true
    · rw [if_pos fine]
      have ok : given.status = 200 := by simpa [Response.isOk] using fine
      refine ⟨?_, fun h => h.1⟩
      intro same
      cases same
      exact ⟨rfl, ok⟩
    · rw [if_neg fine]
      refine ⟨nofun, fun ⟨same, ok⟩ => ?_⟩
      cases same
      exact absurd (by simpa [Response.isOk] using ok) fine

theorem Answer.accepted_eq_error_iff {request : Request} {answer : Answer} :
    (∃ failure, answer.accepted request = .error failure) ↔
      ∀ response, answer = .ok response → response.status ≠ 200 := by
  constructor
  · rintro ⟨failure, refused⟩ response rfl ok
    rw [Answer.accepted_eq_ok_iff.2 ⟨rfl, ok⟩] at refused
    cases refused
  · intro h
    cases accepted : answer.accepted request with
    | error failure => exact ⟨failure, rfl⟩
    | ok response =>
      obtain ⟨same, ok⟩ := Answer.accepted_eq_ok_iff.1 accepted
      exact absurd ok (h response same)

/-- The body of a response is a reply, and the first of its successes that has the path has that
value for it. -/
def Response.Confirms (response : Response) (path : String) (value : Json) : Prop :=
  ∃ reply earlier values later,
    Reply.ofBody? response.body = some reply ∧
    reply.items = earlier ++ .success values :: later ∧
    Json.lookup path values = some value ∧
    ∀ others, .success others ∈ earlier → Json.lookup path others = none

theorem Reply.acknowledged_eq_some_iff {reply : Reply} {path : String} {value : Json} :
    reply.acknowledged path = some value ↔
      ∃ earlier values later, reply.items = earlier ++ .success values :: later ∧
        Json.lookup path values = some value ∧
        ∀ others, .success others ∈ earlier → Json.lookup path others = none := by
  rw [acknowledged, List.findSome?_eq_some_iff]
  constructor
  · rintro ⟨earlier, item, later, items, here, before⟩
    cases item with
    | success values => exact ⟨earlier, values, later, items, here, fun others mem => before _ mem⟩
    | error e => cases here
  · rintro ⟨earlier, values, later, items, here, before⟩
    refine ⟨earlier, .success values, later, items, here, ?_⟩
    intro item mem
    cases item with
    | success others => exact before others mem
    | error e => rfl

/-! ## Listings -/

/-- A body that lists nothing: no object, or an object with a record that does not decode. -/
def Unlisted {α : Type} (decode : String → Json → Option α) (body : Json) : Prop :=
  (∀ members, body ≠ .obj members) ∨
    ∃ members number record, body = .obj members ∧ Json.lookup number members = some record ∧
      decode number record = none

section

variable {α : Type} {resource : String} {decode : String → Json → Option α} {number : α → String}
  {members : List (String × Json)} {body : Json} {entries : List α}

theorem listing_of_decoded
    (h : (distinctMembers members).mapM (fun m => decode m.1 m.2) = some entries) :
    listing resource decode number (.obj members) = .ok (sortByNumber number entries) := by
  simp only [listing]
  split
  · next _ decoded =>
    cases h.symm.trans decoded
    rfl
  · next decoded => cases h.symm.trans decoded

theorem listing_of_undecoded
    (h : (distinctMembers members).mapM (fun m => decode m.1 m.2) = none) :
    listing resource decode number (.obj members) =
      .error (.undecodable resource (.obj members)) := by
  simp only [listing]
  split
  · next _ decoded => cases h.symm.trans decoded
  · rfl

theorem listing_eq_error_iff :
    (∃ failure, listing resource decode number body = .error failure) ↔ Unlisted decode body := by
  constructor
  · rintro ⟨failure, refused⟩
    cases body with
    | obj members =>
      refine .inr ?_
      cases decoded : (distinctMembers members).mapM fun m => decode m.1 m.2 with
      | none =>
        obtain ⟨⟨k, record⟩, mem, no⟩ := mapM_eq_none_iff.1 decoded
        exact ⟨members, k, record, rfl, mem_distinctMembers.1 mem, no⟩
      | some entries => cases (listing_of_decoded decoded).symm.trans refused
    | _ => exact .inl fun _ same => by cases same
  · rintro (noObject | ⟨members, k, record, rfl, found, no⟩)
    · cases body with
      | obj members => exact absurd rfl (noObject members)
      | _ => exact ⟨_, rfl⟩
    · have undecoded : (distinctMembers members).mapM (fun m => decode m.1 m.2) = none :=
        mapM_eq_none_iff.2 ⟨(k, record), mem_distinctMembers.2 found, no⟩
      exact ⟨_, listing_of_undecoded undecoded⟩

/-- Every entry of a listing is decoded from one of the members. -/
theorem mem_of_listing {entry : α}
    (h : listing resource decode number (.obj members) = .ok entries) (mem : entry ∈ entries) :
    ∃ key record, Json.lookup key members = some record ∧ decode key record = some entry := by
  cases decoded : (distinctMembers members).mapM fun m => decode m.1 m.2 with
  | none => cases (listing_of_undecoded decoded).symm.trans h
  | some found =>
    cases (listing_of_decoded decoded).symm.trans h
    have listed : some entry ∈ found.map some :=
      List.mem_map_of_mem ((perm_sortByNumber found).mem_iff.1 mem)
    rw [← mapM_eq_some_iff.1 decoded, List.mem_map] at listed
    obtain ⟨⟨key, record⟩, member, decodes⟩ := listed
    exact ⟨key, record, mem_distinctMembers.1 member, decodes⟩

/-- A listing has no number twice. -/
theorem nodup_of_listing (numbered : ∀ k record e, decode k record = some e → number e = k)
    (h : listing resource decode number body = .ok entries) : (entries.map number).Nodup := by
  cases body with
  | obj members =>
    cases decoded : (distinctMembers members).mapM fun m => decode m.1 m.2 with
    | none => cases (listing_of_undecoded decoded).symm.trans h
    | some found =>
      cases (listing_of_decoded decoded).symm.trans h
      -- Records are decoded in the order of their keys, and each entry has its key for a number.
      have keys : found.map number = Json.keys (distinctMembers members) := by
        have same := mapM_eq_some_iff.1 decoded
        apply List.ext_getElem?
        intro i
        have here := congrArg (·[i]?) same
        simp only [List.getElem?_map, Json.keys] at here ⊢
        cases entry : found[i]? with
        | none => simp_all
        | some e =>
          rw [entry] at here
          obtain ⟨⟨k, record⟩, member, decodes⟩ := Option.map_eq_some_iff.1 here
          rw [member]
          exact congrArg some (numbered k record e decodes)
      refine (((perm_sortByNumber found).map number).nodup_iff).2 ?_
      rw [keys]
      exact (ascending_distinctMembers members).imp fun before => by
        rintro rfl
        exact String.lt_irrefl _ before
  | _ => cases h

end

theorem Group.number_of_ofRecord? {number : String} {j : Json} {g : Group}
    (h : Group.ofRecord? number j = some g) : g.number = number := by
  unfold Group.ofRecord? at h
  simp only [Option.bind_eq_bind, Option.bind_eq_some_iff] at h
  obtain ⟨slots, -, h⟩ := h
  split at h
  · obtain ⟨name, -, rest⟩ := Option.bind_eq_some_iff.1 h
    obtain ⟨lights, -, same⟩ := Option.bind_eq_some_iff.1 rest
    cases same
    rfl
  · cases h

end Bridge

namespace Reconciler

open Bridge

theorem acknowledged_replyOf {response : Response} {path : String} {value : Json} :
    (replyOf response).acknowledged path = some value ↔ response.Confirms path value := by
  rw [replyOf]
  cases body : Reply.ofBody? response.body with
  | none => simp [Response.Confirms, body, Reply.acknowledged, Reply.empty]
  | some reply =>
    rw [Option.getD_some, Reply.acknowledged_eq_some_iff]
    simp [Response.Confirms, body]

theorem confirmedMembership_eq_some_iff {response : Response} {path : String} {lights : NameSet} :
    confirmedMembership (replyOf response) path = some lights ↔
      ∃ names, response.Confirms (path ++ "/lights") (.strings names) ∧ .ofList names = lights := by
  simp only [confirmedMembership, Option.bind_eq_bind, Option.bind_eq_some_iff,
    acknowledged_replyOf, Json.strings?_eq_some_iff]
  constructor
  · rintro ⟨value, confirms, names, rfl, same⟩
    cases same
    exact ⟨names, confirms, rfl⟩
  · rintro ⟨names, confirms, rfl⟩
    exact ⟨_, confirms, names, rfl, rfl⟩

theorem confirmedBrightness_eq_some_iff {response : Response} {path : String} {bri : UInt8} :
    confirmedBrightness (replyOf response) path = some bri ↔
      response.Confirms (path ++ "/bri") (.int bri.toNat) := by
  simp only [confirmedBrightness, Option.bind_eq_some_iff, acknowledged_replyOf,
    Json.uint8?_eq_some_iff, exists_eq_right]

theorem confirmedColorTemp_eq_some_iff {response : Response} {path : String} {ct : UInt16} :
    confirmedColorTemp (replyOf response) path = some ct ↔
      response.Confirms (path ++ "/ct") (.int ct.toNat) := by
  simp only [confirmedColorTemp, Option.bind_eq_some_iff, acknowledged_replyOf,
    Json.uint16?_eq_some_iff, exists_eq_right]

/-! ## What a step reads from its answer -/

/-- What an answer says for a planned request. -/
inductive Plan.Reads : Plan → Answer → Update → Prop where
  | allOff (command : Command) (response : Response) :
    Reads (.allOff command) (.ok response) .allOff
  | lights {response : Response} {lights : List Light} (ok : response.status = 200)
    (listed : Light.ofListing response.body = .ok lights) :
    Reads .loadLights (.ok response) (.lights lights)
  | groups {response : Response} {groups : List Group} (ok : response.status = 200)
    (listed : Group.ofListing response.body = .ok groups) :
    Reads .loadGroups (.ok response) (.groups groups)
  | membership (kind : GroupKind) (path : String) (lights : NameSet) {response : Response}
    (ok : response.status = 200) :
    Reads (.membership kind path lights) (.ok response)
      (.membership kind path (confirmedMembership (replyOf response) path))
  | values (path : String) (command : Command) {response : Response} (ok : response.status = 200) :
    Reads (.values path command) (.ok response)
      (.values (confirmedBrightness (replyOf response) path)
        (confirmedColorTemp (replyOf response) path))

theorem Plan.Reads.ok {plan : Plan} {answer : Answer} {u : Update} (h : plan.Reads answer u) :
    ∃ response, answer = .ok response := by
  cases h <;> exact ⟨_, rfl⟩

theorem Plan.read_eq_ok_iff {plan : Plan} {answer : Answer} {u : Update} :
    plan.read answer = .ok u ↔ plan.Reads answer u := by
  constructor
  · intro h
    cases plan with
    | allOff command =>
      obtain ⟨response, rfl, same⟩ := bind_eq_ok_iff.1 h
      cases same
      exact .allOff command response
    | loadLights =>
      obtain ⟨response, accepted, rest⟩ := bind_eq_ok_iff.1 h
      obtain ⟨rfl, ok⟩ := Answer.accepted_eq_ok_iff.1 accepted
      obtain ⟨lights, listed, same⟩ := bind_eq_ok_iff.1 rest
      cases same
      exact .lights ok listed
    | loadGroups =>
      obtain ⟨response, accepted, rest⟩ := bind_eq_ok_iff.1 h
      obtain ⟨rfl, ok⟩ := Answer.accepted_eq_ok_iff.1 accepted
      obtain ⟨groups, listed, same⟩ := bind_eq_ok_iff.1 rest
      cases same
      exact .groups ok listed
    | membership kind path lights =>
      obtain ⟨response, accepted, same⟩ := bind_eq_ok_iff.1 h
      obtain ⟨rfl, ok⟩ := Answer.accepted_eq_ok_iff.1 accepted
      cases same
      exact .membership kind path lights ok
    | values path command =>
      obtain ⟨response, accepted, same⟩ := bind_eq_ok_iff.1 h
      obtain ⟨rfl, ok⟩ := Answer.accepted_eq_ok_iff.1 accepted
      cases same
      exact .values path command ok
  · intro h
    cases h with
    | allOff => rfl
    | lights ok listed =>
      exact bind_eq_ok_iff.2
        ⟨_, Answer.accepted_eq_ok_iff.2 ⟨rfl, ok⟩, bind_eq_ok_iff.2 ⟨_, listed, rfl⟩⟩
    | groups ok listed =>
      exact bind_eq_ok_iff.2
        ⟨_, Answer.accepted_eq_ok_iff.2 ⟨rfl, ok⟩, bind_eq_ok_iff.2 ⟨_, listed, rfl⟩⟩
    | membership kind path lights ok =>
      exact bind_eq_ok_iff.2 ⟨_, Answer.accepted_eq_ok_iff.2 ⟨rfl, ok⟩, rfl⟩
    | values path command ok =>
      exact bind_eq_ok_iff.2 ⟨_, Answer.accepted_eq_ok_iff.2 ⟨rfl, ok⟩, rfl⟩

/-- The causes for which the answer to a planned request is refused. -/
inductive Plan.Refuses : Plan → Answer → Prop where
  /-- The bridge was not reached. -/
  | unreachable (plan : Plan) (failure : Failure) : Refuses plan (.error failure)
  /-- A status other than 200, for anything but an all-off. -/
  | status {plan : Plan} {response : Response} (other : plan.step ≠ .processCommands)
    (bad : response.status ≠ 200) : Refuses plan (.ok response)
  | lights {response : Response} (bad : Unlisted Light.ofRecord? response.body) :
    Refuses .loadLights (.ok response)
  | groups {response : Response} (bad : Unlisted Group.ofRecord? response.body) :
    Refuses .loadGroups (.ok response)

/-- A step fails exactly for these causes. -/
theorem Plan.read_eq_error_iff {plan : Plan} {answer : Answer} :
    (∃ failure, plan.read answer = .error failure) ↔ plan.Refuses answer := by
  have refused {p : Plan} (other : p.step ≠ .processCommands)
      (h : ∃ failure, answer.accepted p.request = .error failure) : p.Refuses answer := by
    have bad := Answer.accepted_eq_error_iff.1 h
    cases answer with
    | error failure => exact .unreachable p failure
    | ok response => exact .status other (bad response rfl)
  constructor
  · intro h
    cases plan with
    | allOff command =>
      rcases bind_eq_error_iff.1 h with ⟨failure, rfl⟩ | ⟨_, -, _, no⟩
      · exact .unreachable _ failure
      · cases no
    | loadLights =>
      rcases bind_eq_error_iff.1 h with refusal | ⟨response, accepted, rest⟩
      · exact refused nofun refusal
      · obtain ⟨rfl, -⟩ := Answer.accepted_eq_ok_iff.1 accepted
        rcases bind_eq_error_iff.1 rest with unlisted | ⟨_, -, _, no⟩
        · exact .lights (listing_eq_error_iff.1 unlisted)
        · cases no
    | loadGroups =>
      rcases bind_eq_error_iff.1 h with refusal | ⟨response, accepted, rest⟩
      · exact refused nofun refusal
      · obtain ⟨rfl, -⟩ := Answer.accepted_eq_ok_iff.1 accepted
        rcases bind_eq_error_iff.1 rest with unlisted | ⟨_, -, _, no⟩
        · exact .groups (listing_eq_error_iff.1 unlisted)
        · cases no
    | membership kind path lights =>
      rcases bind_eq_error_iff.1 h with refusal | ⟨_, -, _, no⟩
      · exact refused nofun refusal
      · cases no
    | values path command =>
      rcases bind_eq_error_iff.1 h with refusal | ⟨_, -, _, no⟩
      · exact refused nofun refusal
      · cases no
  · intro h
    cases outcome : plan.read answer with
    | error failure => exact ⟨failure, rfl⟩
    | ok u =>
      exfalso
      have reads := Plan.read_eq_ok_iff.1 outcome
      cases h with
      | unreachable => cases reads
      | status other bad =>
        cases reads with
        | allOff => exact other rfl
        | lights ok => exact bad ok
        | groups ok => exact bad ok
        | membership _ _ _ ok => exact bad ok
        | values _ _ ok => exact bad ok
      | lights bad =>
        cases reads with
        | lights ok listed =>
          obtain ⟨failure, unlisted⟩ := listing_eq_error_iff.2 bad
          exact nomatch listed.symm.trans unlisted
      | groups bad =>
        cases reads with
        | groups ok listed =>
          obtain ⟨failure, unlisted⟩ := listing_eq_error_iff.2 bad
          exact nomatch listed.symm.trans unlisted

end Reconciler
end LightSync
