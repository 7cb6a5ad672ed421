import LightSync.Proofs.KnownLights
import Mathlib.Data.List.Nodup

/-!
# The one order of a listing

The records of a listing come from a map that yields them in no particular order. Their numbers are
distinct and `bridgeOrder` is a total order, so whatever order they come in, sorting gives one and
the same list. Every lookup takes the first entry that matches, which is the smallest one.

## Main definitions

- `IsIteration`: the members of an object in some order
- `ListsInOrder`, `DecodesInOrder`: the entries of a listing, and how a body is decoded
- `IsSmallest`: the smallest item that fulfils a condition
- `State.FromListings`, `State.FindsSmallest`: where lights and groups come from, and how they are
  looked up
- `State.GroupsAscend`: the groups are in bridge order

## Main results

- `sortByNumber_eq_of_perm`: items with distinct numbers are sorted into one list
- `listing_of_iteration`: a listing does not depend on the order of its records
- `isSmallest_find?`: a search finds the smallest item
-/

namespace LightSync

/-- Decoding item by item succeeds in every order or in none, with the same results. -/
theorem mapM_cases_of_perm {α β : Type} {f : α → Option β} {items items' : List α}
    (perm : items.Perm items') :
    (items.mapM f = none ∧ items'.mapM f = none) ∨
      ∃ found found', items.mapM f = some found ∧ items'.mapM f = some found' ∧
        found.Perm found' := by
  have none_iff : items.mapM f = none ↔ items'.mapM f = none := by
    simp only [mapM_eq_none_iff, perm.mem_iff]
  cases first : items.mapM f with
  | none => exact .inl ⟨rfl, none_iff.1 first⟩
  | some found =>
    cases second : items'.mapM f with
    | none => exact nomatch first.symm.trans (none_iff.2 second)
    | some found' =>
      have mapped : (found.map some).Perm (found'.map some) := by
        rw [← mapM_eq_some_iff.1 first, ← mapM_eq_some_iff.1 second]
        exact perm.map f
      exact .inr ⟨found, found', rfl, rfl, by simpa using mapped.filterMap id⟩

namespace Bridge

variable {α : Type} {resource : String} {decode : String → Json → Option α} {number : α → String}
  {members order : List (String × Json)} {body : Json} {entries : List α}

/-! ## Sorting, whatever the order -/

/-- Items with distinct numbers are sorted into one list, whatever order they come in. -/
theorem sortByNumber_eq_of_perm {items items' : List α} (distinct : (items.map number).Nodup)
    (perm : items.Perm items') : sortByNumber number items = sortByNumber number items' := by
  have arranged : (sortByNumber number items).Perm items' := (perm_sortByNumber items).trans perm
  have distinct' : (items'.map number).Nodup := (perm.map number).nodup_iff.1 distinct
  exact (eq_sortByNumber_iff distinct').1 ⟨arranged, inOrder_sortByNumber items⟩

/-- The members of an object in some order: every key once, with the record that counts for it. -/
structure IsIteration (order members : List (String × Json)) : Prop where
  once : (Json.keys order).Nodup
  mem : ∀ key record, (key, record) ∈ order ↔ Json.lookup key members = some record

theorem isIteration_distinctMembers (members : List (String × Json)) :
    IsIteration (distinctMembers members) members where
  once := (ascending_distinctMembers members).imp fun before => by
    rintro rfl
    exact String.lt_irrefl _ before
  mem _ _ := mem_distinctMembers

/-- Two orders of the same members have the same items. -/
theorem IsIteration.perm {order' : List (String × Json)} (h : IsIteration order members)
    (h' : IsIteration order' members) : order.Perm order' := by
  refine (List.perm_ext_iff_of_nodup h.once.of_map h'.once.of_map).2 fun m => ?_
  exact (h.mem m.1 m.2).trans (h'.mem m.1 m.2).symm

section

variable (numbered : ∀ k record e, decode k record = some e → number e = k)
include numbered

/-- A listing does not depend on the order in which its records come. -/
theorem listing_of_iteration (h : IsIteration order members) :
    listing resource decode number (.obj members) =
      match order.mapM fun m => decode m.1 m.2 with
      | some found => .ok (sortByNumber number found)
      | none => .error (.undecodable resource (.obj members)) := by
  rcases mapM_cases_of_perm (f := fun m : String × Json => decode m.1 m.2)
      ((isIteration_distinctMembers members).perm h) with
    ⟨first, second⟩ | ⟨found, found', first, second, perm⟩
  · rw [second]
    exact listing_of_undecoded first
  · have listed : listing resource decode number (.obj members) = .ok (sortByNumber number found) :=
      listing_of_decoded first
    have distinct : (found.map number).Nodup :=
      nodup_sortByNumber_iff.1 (nodup_of_listing numbered listed)
    rw [second, listed]
    exact congrArg Except.ok (sortByNumber_eq_of_perm distinct perm)

end

/-! ## Entries of a listing -/

/-- The entries of an object of records, in the one order that they have whatever order the records
come in. -/
structure ListsInOrder (decode : String → Json → Option α) (number : α → String)
    (members : List (String × Json)) (entries : List α) : Prop where
  /-- Every key has one entry, with the key for its number. -/
  one : ∀ key ∈ Json.keys members, ∃ entry ∈ entries, number entry = key ∧
    ∀ other ∈ entries, number other = key → other = entry
  /-- Every entry is decoded from the record under its number. -/
  own : ∀ entry ∈ entries, ∃ record, Json.lookup (number entry) members = some record ∧
    decode (number entry) record = some entry
  ascending : entries.Pairwise fun a b => bridgeOrder (number a) (number b) = .lt
  /-- Whatever order the records come in, they all decode, and sorting gives these entries. -/
  canonical : ∀ order, IsIteration order members →
    ∃ found, order.mapM (fun m => decode m.1 m.2) = some found ∧
      sortByNumber number found = entries

/-- A body is listed as a whole, or refused as a whole. -/
structure DecodesInOrder (decode : String → Json → Option α) (number : α → String) (body : Json)
    (result : Except Failure (List α)) : Prop where
  refused : (∃ failure, result = .error failure) ↔ Unlisted decode body
  listed : ∀ entries, result = .ok entries →
    ∃ members, body = .obj members ∧ ListsInOrder decode number members entries

theorem listsInOrder_of_listing
    (numbered : ∀ k record e, decode k record = some e → number e = k)
    (h : listing resource decode number (.obj members) = .ok entries) :
    ListsInOrder decode number members entries where
  one key mem := by
    obtain ⟨record, counts⟩ := Json.lookup_isSome_of_mem mem
    -- The record decodes, for otherwise nothing would be listed.
    obtain ⟨entry, decodes⟩ : ∃ entry, decode key record = some entry := by
      rw [← Option.ne_none_iff_exists']
      intro none
      have unlisted : Unlisted decode (.obj members) :=
        .inr ⟨members, key, record, rfl, counts, none⟩
      obtain ⟨failure, refused⟩ : ∃ failure,
          listing resource decode number (.obj members) = .error failure :=
        listing_eq_error_iff.2 unlisted
      exact nomatch h.symm.trans refused
    have here := mem_listing_of_lookup h counts decodes
    refine ⟨entry, here, numbered key record entry decodes, fun other mem' same => ?_⟩
    exact List.inj_on_of_nodup_map (nodup_of_listing numbered h) mem' here
      (same.trans (numbered key record entry decodes).symm)
  own entry mem := by
    obtain ⟨key, record, counts, decodes⟩ := mem_of_listing h mem
    cases numbered key record entry decodes
    exact ⟨record, counts, decodes⟩
  ascending := pairwise_of_listing numbered h
  canonical order iteration := by
    rw [listing_of_iteration numbered iteration] at h
    split at h
    · next found decoded => exact ⟨found, decoded, Except.ok.inj h⟩
    · cases h

theorem decodesInOrder_listing
    (numbered : ∀ k record e, decode k record = some e → number e = k) :
    DecodesInOrder decode number body (listing resource decode number body) where
  refused := listing_eq_error_iff
  listed entries h := by
    obtain ⟨members, -, rfl, -⟩ := listing_eq_ok_iff.1 h
    exact ⟨members, rfl, listsInOrder_of_listing numbered h⟩

/-! ## Lookups -/

/-- The result of a lookup: among the items that fulfil a condition the one with the smallest
number, or nothing if no item does. -/
def IsSmallest (number : α → String) (items : List α) (matching : α → Prop) : Option α → Prop
  | some x => x ∈ items ∧ matching x ∧
      ∀ y ∈ items, matching y → y = x ∨ bridgeOrder (number x) (number y) = .lt
  | none => ∀ x ∈ items, ¬ matching x

/-- A search through ascending items finds the smallest one. -/
theorem isSmallest_find? {items : List α}
    (ascending : items.Pairwise fun a b => bridgeOrder (number a) (number b) = .lt)
    (matching : α → Prop) [DecidablePred matching] :
    IsSmallest number items matching (items.find? (matching ·)) := by
  cases found : items.find? (matching ·) with
  | none =>
    intro x mem fulfils
    exact List.find?_eq_none.1 found x mem (decide_eq_true fulfils)
  | some x =>
    obtain ⟨matches', before, after, rfl, earlier⟩ := List.find?_eq_some_iff_append.1 found
    refine ⟨List.mem_append_right _ (List.mem_cons_self ..), of_decide_eq_true matches', ?_⟩
    intro y mem fulfils
    rcases List.mem_append.1 mem with first | later
    · have none := earlier y first
      simp [fulfils] at none
    · rcases List.mem_cons.1 later with rfl | last
      · exact .inl rfl
      · exact .inr ((List.pairwise_cons.1 (List.pairwise_append.1 ascending).2.1).1 y last)

end Bridge

namespace Reconciler

open Bridge

namespace State

variable {s t : State} {settings : SyncSettings} {listed : List Group}

/-- The lights and groups that are known are those of listings; groups go by their numbers and
names. -/
structure FromListings (s : State) : Prop where
  lights : s.lights = none ∨ ∃ body, Light.ofListing body = .ok s.allLights
  groups : s.groups = none ∨ ∃ body listed, Group.ofListing body = .ok listed ∧
    s.allGroups.map Group.label = listed.map Group.label

/-- The groups that are known are in bridge order. -/
def GroupsAscend (s : State) : Prop :=
  s.allGroups.Pairwise fun a b => bridgeOrder a.number b.number = .lt

/-- Every lookup gives what has the smallest number of all that match. -/
structure FindsSmallest (s : State) (settings : SyncSettings) : Prop where
  lightOfId : ∀ uniqueId,
    IsSmallest (·.number) s.allLights (·.uniqueId = uniqueId) (s.light? uniqueId)
  lightOfName : ∀ name, ∃ l, s.numberOfName? name = l.map (·.number) ∧
    IsSmallest (·.number) s.allLights (·.name = name) l
  groupOfName : ∀ name, ∃ g, s.groupLights? name = g.map (·.lights.members) ∧
    IsSmallest (·.number) s.allGroups (·.name = name) g
  managed : ∀ kind,
    IsSmallest (·.number) s.allGroups (·.name = settings.groupName kind) (s.group? kind)

/-- A managed group is the first one of its name. -/
theorem Lists.group?_eq_find? (h : s.Lists settings listed) (kind : GroupKind) :
    s.group? kind = s.allGroups.find? (·.name = settings.groupName kind) := by
  obtain ⟨groups, known, labels⟩ := Option.map_eq_some_iff.1 h.labels
  have named (gs : List Group) : gs.findIdx? (·.name = settings.groupName kind) =
      (gs.map Group.label).findIdx? (·.2 = settings.groupName kind) := by
    rw [List.findIdx?_map]
    rfl
  have place : s.place kind = groups.findIdx? (·.name = settings.groupName kind) := by
    rw [h.place, named, named, labels]
  rw [allGroups, known, Option.getD_some, List.find?_eq_bind_findIdx?_getElem?, ← place, group?,
    known]
  rfl

theorem findsSmallest_of_ascending
    (lights : s.allLights.Pairwise fun a b => bridgeOrder a.number b.number = .lt)
    (groups : s.GroupsAscend)
    (managed : ∀ kind, s.group? kind = s.allGroups.find? (·.name = settings.groupName kind)) :
    s.FindsSmallest settings where
  lightOfId _ := isSmallest_find? lights _
  lightOfName name := ⟨s.allLights.find? (·.name = name), rfl, isSmallest_find? lights _⟩
  groupOfName name := ⟨s.allGroups.find? (·.name = name), rfl, isSmallest_find? groups _⟩
  managed kind := by
    rw [managed]
    exact isSmallest_find? groups _

/-- What the last listing says of the groups, whether there was one or none. -/
theorem ListsLast.groups {last : Option Json} (h : s.ListsLast settings last) :
    (s.groups = none ∨ ∃ body listed, Group.ofListing body = .ok listed ∧
      s.allGroups.map Group.label = listed.map Group.label) ∧
    s.GroupsAscend ∧
    ∀ kind, s.group? kind = s.allGroups.find? (·.name = settings.groupName kind) := by
  cases last with
  | none =>
    obtain ⟨unknown, nowhere⟩ := h
    have nothing : s.allGroups = [] := by rw [allGroups, unknown]; rfl
    refine ⟨.inl unknown, ?_, fun kind => ?_⟩
    · rw [GroupsAscend, nothing]
      exact .nil
    · rw [nothing, group?, nowhere kind]
      rfl
  | some body =>
    obtain ⟨listed, decoded, lists⟩ := h
    obtain ⟨groups, knows⟩ := lists.knowsListing decoded
    have all : s.allGroups = groups := by rw [allGroups, knows.known]; rfl
    refine ⟨.inr ⟨body, listed, decoded, ?_⟩, ?_, lists.group?_eq_find?⟩
    · rw [all]
      exact knows.labels
    · rw [GroupsAscend, all]
      exact knows.ascending

/-! ### Groups stay in order -/

theorem GroupsAscend.of_labels (ordered : s.GroupsAscend)
    (labels : t.groups.map (·.map Group.label) = s.groups.map (·.map Group.label)) :
    t.GroupsAscend := by
  have all (u : State) :
      u.allGroups.map Group.label = (u.groups.map (·.map Group.label)).getD [] := by
    unfold allGroups
    cases u.groups <;> rfl
  have ordered : (s.allGroups.map Group.label).Pairwise fun a b => bridgeOrder a.1 b.1 = .lt :=
    List.pairwise_map.2 ordered
  rw [all, ← labels, ← all] at ordered
  exact List.pairwise_map.1 ordered

theorem GroupsAscend.congr (ordered : s.GroupsAscend) (same : t.unclaimed = s.unclaimed) :
    t.GroupsAscend :=
  ordered.of_labels (congrArg _ (groups_congr same))

theorem GroupsAscend.changes (ordered : s.GroupsAscend) (cs : List Change) :
    (s.changes cs).GroupsAscend := by
  induction cs generalizing s with
  | nil => exact ordered
  | cons c rest ih => exact ih (ordered.of_labels (s.labels_change c))

/-- Groups are listed in bridge order, and no other update moves them. -/
theorem GroupsAscend.take (ordered : s.GroupsAscend) (settings : SyncSettings) (plan : Plan)
    (answer : Answer) (heard : List Change) :
    (s.take settings plan answer heard).GroupsAscend := by
  unfold State.take
  cases read : plan.read answer with
  | error failure => exact ordered
  | ok u =>
    have updated : (s.update settings u).GroupsAscend := by
      cases Plan.read_eq_ok_iff.1 read with
      | groups ok listed =>
        have entries := (List.pairwise_map (f := fun g : Group => g.number)
          (R := fun a b => bridgeOrder a b = .lt)).2
          (pairwise_of_listing (fun _ _ _ => Group.number_of_ofRecord?) listed)
        have numbers (gs : List Group) : (s.update settings (.groups gs)).allGroups.map (·.number) =
            gs.map (·.number) := map_update_groups (fun _ => rfl) gs
        rw [← numbers] at entries
        exact List.pairwise_map.1 entries
      | allOff | lights | membership | values =>
        refine ordered.of_labels (labels_update (fun groups same => ?_) s settings)
        cases same
    simp only
    split
    · exact updated.changes heard
    · exact updated

end State

namespace Scene

/-- The lights that are known are those of a listing. -/
theorem lights_run (settings : SyncSettings) (wording : Wording) (events : List Event) :
    let s := ((new settings wording).run events).state
    s.lights = none ∨ ∃ body, Light.ofListing body = .ok s.allLights := by
  have start : (new settings wording).state.lights = none ∨
      ∃ body, Light.ofListing body = .ok (new settings wording).state.allLights := .inl rfl
  generalize new settings wording = s at start ⊢
  induction events generalizing s with
  | nil => exact start
  | cons e rest ih =>
    refine ih (s.next e) ?_
    rcases s.lights_next e with same | ⟨body, lights, decoded, listed⟩
    · rw [State.allLights, same]
      exact start
    · refine .inr ⟨body, ?_⟩
      rw [State.allLights, listed]
      exact decoded

/-- A listing has one order. It is an error exactly if its body is no object or has a record that
does not decode; otherwise its entries are one for each key, with the key for its number, strictly
ascending, and the same whatever order the records come in. The lights and groups of every state
that is reached are those of listings, and every lookup among them finds what has the smallest
number of all that match. -/
theorem listings_have_one_order (settings : SyncSettings) (wording : Wording)
    (events : List Event) (body : Json) :
    let s := ((new settings wording).run events).state
    DecodesInOrder Light.ofRecord? (·.number) body (Light.ofListing body) ∧
    DecodesInOrder Group.ofRecord? (·.number) body (Group.ofListing body) ∧
    s.FromListings ∧ s.FindsSmallest settings := by
  intro s
  refine ⟨decodesInOrder_listing fun _ _ _ => Light.number_of_ofRecord?,
    decodesInOrder_listing fun _ _ _ => Group.number_of_ofRecord?, ?_⟩
  have start : (new settings wording).state.ListsLast settings none :=
    ⟨rfl, fun kind => by cases kind <;> rfl⟩
  have lights := lights_run settings wording events
  have ascending := lights_ascending_run settings wording events
  have last := listsLast_run start events
  obtain ⟨groups, ordered, managed⟩ := last.groups
  exact ⟨⟨lights, groups⟩, State.findsSmallest_of_ascending ascending ordered managed⟩

end Scene
end Reconciler
end LightSync
