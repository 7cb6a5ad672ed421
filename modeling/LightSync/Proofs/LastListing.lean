import LightSync.Proofs.Mirroring
import LightSync.Proofs.ReplyGrammar

/-!
# The groups of the last listing

The groups that the state knows are those of the last listing that was taken in, in bridge order
and under their names there. The managed groups are the first ones of their names, and every other
group is its entry in that listing, whatever happened since.

## Main definitions

- `Group.Reads`: what the record of a group in a listing says
- `Group.IsEntry`: a group as a listing has it
- `Plan.listing?`, `Scene.lastListing`: the listing that is taken in with an answer, and the last
  one in a run
- `State.Lists`: the state knows the groups of a listing
- `State.KnowsListing`: what this says of the groups, reference by reference
-/

namespace LightSync

namespace Bridge

section

variable {α : Type} {resource : String} {decode : String → Json → Option α} {number : α → String}
  {members : List (String × Json)} {body : Json} {entries : List α}

theorem listing_eq_ok_iff : listing resource decode number body = .ok entries ↔
    ∃ members found, body = .obj members ∧
      (distinctMembers members).mapM (fun m => decode m.1 m.2) = some found ∧
      sortByNumber number found = entries := by
  constructor
  · intro h
    cases body with
    | obj members =>
      cases decoded : (distinctMembers members).mapM fun m => decode m.1 m.2 with
      | none => cases (listing_of_undecoded decoded).symm.trans h
      | some found =>
        exact ⟨members, found, rfl, decoded,
          Except.ok.inj ((listing_of_decoded decoded).symm.trans h)⟩
    | _ => cases h
  · rintro ⟨members, found, rfl, decoded, rfl⟩
    exact listing_of_decoded decoded

/-- A listing is strictly ascending. -/
theorem pairwise_of_listing (numbered : ∀ k record e, decode k record = some e → number e = k)
    (h : listing resource decode number body = .ok entries) :
    entries.Pairwise fun a b => bridgeOrder (number a) (number b) = .lt := by
  have distinct := nodup_of_listing numbered h
  obtain ⟨members, found, -, -, rfl⟩ := listing_eq_ok_iff.1 h
  exact pairwise_sortByNumber (nodup_sortByNumber_iff.1 distinct)

/-- What a member of a listing decodes to is listed. -/
theorem mem_listing_of_lookup {key : String} {record : Json} {entry : α}
    (h : listing resource decode number (.obj members) = .ok entries)
    (found : Json.lookup key members = some record) (decodes : decode key record = some entry) :
    entry ∈ entries := by
  obtain ⟨_, decoded, same, all, rfl⟩ := listing_eq_ok_iff.1 h
  cases same
  refine (perm_sortByNumber decoded).mem_iff.2 ?_
  have mapped : some entry ∈ decoded.map some := by
    rw [← mapM_eq_some_iff.1 all]
    exact List.mem_map.2 ⟨(key, record), mem_distinctMembers.2 found, decodes⟩
  simpa using mapped

end

namespace Group

/-- What tells a group from others: its number and its name. -/
def label (g : Group) : String × String := (g.number, g.name)

/-- What the record of a group says: its name and its lights, where each of them may be left out.
An object may say more. -/
structure Reads (j : Json) (g : Group) : Prop where
  record : j.IsRecord 2
  name : Json.FieldIs Json.IsText "" (j.part? "name" 0) g.name
  lights : ∃ names, Json.FieldIs Json.IsTexts [] (j.part? "lights" 1) names ∧
    g = listed g.number g.name (.ofList names)

/-- A group as a listing has it. -/
def IsEntry (body : Json) (g : Group) : Prop :=
  ∃ members record, body = .obj members ∧ Json.lookup g.number members = some record ∧
    ofRecord? g.number record = some g

variable {body : Json} {entries : List Group}

theorem ofRecord?_eq_some_iff {number : String} {j : Json} {g : Group} (once : j.KeysOnce) :
    ofRecord? number j = some g ↔ g.number = number ∧ g.Reads j := by
  obtain ⟨slots, found, record, given⟩ | ⟨found, unfit⟩ :=
    Json.slots?_cases ["name", "lights"] once
  · obtain ⟨_, _, rfl, name, given⟩ := List.map_eq_cons_iff.1 given
    obtain ⟨_, _, rfl, lights, given⟩ := List.map_eq_cons_iff.1 given
    cases List.map_eq_nil_iff.1 given
    rw [ofRecord?, found]
    simp only [Option.bind_eq_bind, Option.bind_some, Json.Slot.withDefault_eq, name, lights,
      Option.bind_eq_some_iff, Json.decodes_text.orDefault_iff, Json.decodes_texts.orDefault_iff]
    constructor
    · rintro ⟨_, name, names, lights, same⟩
      cases same
      exact ⟨rfl, record, name, names, lights, rfl⟩
    · rintro ⟨rfl, -, name, names, lights, same⟩
      exact ⟨_, name, names, lights, congrArg some same.symm⟩
  · rw [ofRecord?, found]
    exact iff_of_false (by simp) fun reads => unfit reads.2.record

/-- An entry of a listing that was received has the name and the lights that the member with its
number gives. -/
theorem isEntry_iff (canonical : body.Canonical) (g : Group) :
    g.IsEntry body ↔ ∃ members record, body = .obj members ∧
      Json.lookup g.number members = some record ∧ g.Reads record := by
  refine exists_congr fun members => exists_congr fun record => ?_
  refine and_congr_right fun is => and_congr_right fun found => ?_
  subst is
  cases canonical with
  | obj _ each =>
    exact (ofRecord?_eq_some_iff (each _ (Json.mem_of_lookup found)).keysOnce).trans
      (and_iff_right rfl)

theorem mem_ofListing (h : ofListing body = .ok entries) (g : Group) :
    g ∈ entries ↔ g.IsEntry body := by
  obtain ⟨members, -, rfl, -, -⟩ := listing_eq_ok_iff.1 h
  constructor
  · intro mem
    obtain ⟨key, record, found, decodes⟩ := mem_of_listing h mem
    cases number_of_ofRecord? decodes
    exact ⟨members, record, rfl, found, decodes⟩
  · rintro ⟨_, record, same, found, decodes⟩
    cases same
    exact mem_listing_of_lookup h found decodes

/-- An entry of a listing is clean, and no value is known for it. -/
theorem eq_listed_of_ofRecord? {number : String} {record : Json} {g : Group}
    (h : ofRecord? number record = some g) : g = listed g.number g.name g.lights.members := by
  unfold ofRecord? at h
  simp only [Option.bind_eq_bind, Option.bind_eq_some_iff] at h
  obtain ⟨slots, -, h⟩ := h
  split at h
  · obtain ⟨name, -, rest⟩ := Option.bind_eq_some_iff.1 h
    obtain ⟨lights, -, same⟩ := Option.bind_eq_some_iff.1 rest
    cases same
    rfl
  · cases h

theorem label_confirmLights (path : String) (confirmed : Option NameSet) (g : Group) :
    (g.confirmLights path confirmed).label = g.label := by
  unfold confirmLights
  split
  · rfl
  · rfl

end Group
end Bridge

namespace Reconciler

open Bridge

theorem Change.label_edit {c : Change} {kind : GroupKind} {f : Group → Group × Bool}
    (h : c.edit? = some (kind, f)) (g : Group) : (f g).1.label = g.label := by
  cases c <;> cases h <;> rfl

namespace State

variable {s t : State} {settings : SyncSettings} {listed : List Group}

/-- The groups are those of a listing, and the managed ones are the first of their names. All but
these are as they were listed. -/
structure Lists (s : State) (settings : SyncSettings) (listed : List Group) : Prop where
  labels : s.groups.map (·.map Group.label) = some (listed.map Group.label)
  place : ∀ kind, s.place kind = listed.findIdx? (·.name = settings.groupName kind)
  others : ∀ i : Nat, (∀ kind, s.place kind ≠ some i) → s.allGroups[i]? = listed[i]?

/-- What is known of the groups if the last listing had this body, or there was none. -/
def ListsLast (s : State) (settings : SyncSettings) : Option Json → Prop
  | none => s.groups = none ∧ ∀ kind, s.place kind = none
  | some body => ∃ listed, Group.ofListing body = .ok listed ∧ s.Lists settings listed

/-- What is known of the groups after a listing, compared with the entries of its body. -/
structure KnowsListing (s : State) (settings : SyncSettings) (body : Json)
    (groups listed : List Group) : Prop where
  known : s.groups = some groups
  decoded : Group.ofListing body = .ok listed
  labels : groups.map Group.label = listed.map Group.label
  ascending : groups.Pairwise fun a b => bridgeOrder a.number b.number = .lt
  /-- A managed group is the first of its name. -/
  first : ∀ kind (i : Nat), s.place kind = some i →
    (∃ g, listed[i]? = some g ∧ g.name = settings.groupName kind) ∧
      ∀ j < i, ∀ g, listed[j]? = some g → g.name ≠ settings.groupName kind
  /-- There is a managed group if the listing has one of its name. -/
  placed : ∀ kind, (s.place kind).isSome ↔
    ∃ g : Group, g.IsEntry body ∧ g.name = settings.groupName kind
  ready : s.isReady ↔ ∀ kind, ∃ g : Group, g.IsEntry body ∧ g.name = settings.groupName kind
  /-- Every other group is its entry, which is clean and has no values. -/
  others : ∀ (i : Nat) g, groups[i]? = some g → (∀ kind, s.place kind ≠ some i) →
    listed[i]? = some g ∧ g.IsEntry body ∧ g = .listed g.number g.name g.lights.members

/-! ## What is known of the groups of a listing -/

/-- The managed groups are known by the numbers and names that they were listed with. -/
theorem Lists.label_group? (h : s.Lists settings listed) (kind : GroupKind) :
    (s.group? kind).map Group.label =
      (listed.find? (·.name = settings.groupName kind)).map Group.label := by
  obtain ⟨groups, known, labels⟩ := Option.map_eq_some_iff.1 h.labels
  rw [List.find?_eq_bind_findIdx?_getElem?, ← h.place, group?, known]
  cases s.place kind with
  | none => rfl
  | some i =>
    simp only [Option.bind_eq_bind, Option.bind_some]
    rw [← List.getElem?_map, labels, List.getElem?_map]

theorem Lists.isSome_group? (h : s.Lists settings listed) (kind : GroupKind) :
    (s.group? kind).isSome ↔ ∃ g ∈ listed, g.name = settings.groupName kind := by
  rw [← Option.isSome_map (f := Group.label), h.label_group?, Option.isSome_map, List.find?_isSome]
  simp only [decide_eq_true_eq]

theorem Lists.knowsListing {body : Json} (h : s.Lists settings listed)
    (decoded : Group.ofListing body = .ok listed) :
    ∃ groups, s.KnowsListing settings body groups listed := by
  obtain ⟨groups, known, labels⟩ := Option.map_eq_some_iff.1 h.labels
  have entries (kind : GroupKind) : (∃ g ∈ listed, g.name = settings.groupName kind) ↔
      ∃ g : Group, g.IsEntry body ∧ g.name = settings.groupName kind :=
    exists_congr fun g => and_congr_left' (Group.mem_ofListing decoded g)
  have numbers : groups.map (·.number) = listed.map (·.number) := by
    have firsts := congrArg (List.map Prod.fst) labels
    rwa [List.map_map, List.map_map] at firsts
  refine ⟨groups, known, decoded, labels, ?ascending, ?first, ?placed, ?ready, ?others⟩
  case ascending =>
    have before : (listed.map (·.number)).Pairwise fun a b => bridgeOrder a b = .lt :=
      List.pairwise_map.2 (pairwise_of_listing (fun _ _ _ => Group.number_of_ofRecord?) decoded)
    rw [← numbers] at before
    exact List.pairwise_map.1 before
  case first =>
    intro kind i here
    rw [h.place] at here
    obtain ⟨bound, named, before⟩ := List.findIdx?_eq_some_iff_getElem.1 here
    refine ⟨⟨listed[i], List.getElem?_eq_getElem bound, by simpa using named⟩, ?_⟩
    intro j earlier g found
    obtain ⟨bound', rfl⟩ := List.getElem?_eq_some_iff.1 found
    simpa using before j earlier
  case placed =>
    intro kind
    rw [← entries, h.place, List.findIdx?_isSome, List.any_eq_true]
    simp only [decide_eq_true_eq]
  case ready =>
    rw [isReady, Bool.and_eq_true, h.isSome_group?, h.isSome_group?, entries, entries]
    refine ⟨?_, fun all => ⟨all .brightness, all .temperature⟩⟩
    rintro ⟨bright, warm⟩ kind
    cases kind with
    | brightness => exact bright
    | temperature => exact warm
  case others =>
    intro i g found other
    have here : listed[i]? = some g := by
      rw [← h.others i other, allGroups, known]
      exact found
    have entry := (Group.mem_ofListing decoded g).1 (List.mem_of_getElem? here)
    obtain ⟨_, record, -, -, decodes⟩ := id entry
    exact ⟨here, entry, Group.eq_listed_of_ofRecord? decodes⟩

/-! ## What keeps the groups of a listing -/

theorem labels_change (s : State) (c : Change) :
    (s.change c).1.groups.map (·.map Group.label) = s.groups.map (·.map Group.label) := by
  rcases s.change_cases c with ⟨kind, f, edits, made⟩ | ⟨same, -⟩ | ⟨-, -, request⟩
  · rw [made]
    exact view_modifyGroup (Change.label_edit edits) s kind
  · rw [same]
  · rcases request with ⟨fade, rfl⟩ | rfl | rfl <;> rfl

theorem labels_update {u : Update} (known : ∀ groups, u ≠ .groups groups) (s : State)
    (settings : SyncSettings) :
    (s.update settings u).groups.map (·.map Group.label) = s.groups.map (·.map Group.label) := by
  cases u with
  | allOff =>
    exact (view_modifyGroup (f := Group.emptied) (fun _ => rfl) _ .temperature).trans
      (view_modifyGroup (f := Group.emptied) (fun _ => rfl) s .brightness)
  | lights lights => rfl
  | groups groups => exact absurd rfl (known groups)
  | membership kind path confirmed =>
    exact view_modifyGroup (Group.label_confirmLights path confirmed) s kind
  | values bri ct =>
    refine (view_modifyGroup ?_ _ .temperature).trans (view_modifyGroup ?_ s .brightness)
    · exact fun _ => rfl
    · exact fun _ => rfl

theorem Lists.keep (h : s.Lists settings listed) (kept : s.KeepsOthers t)
    (labels : t.groups.map (·.map Group.label) = s.groups.map (·.map Group.label)) :
    t.Lists settings listed where
  labels := labels.trans h.labels
  place kind := (kept.place kind).trans (h.place kind)
  others i other := by
    have before (kind : GroupKind) : s.place kind ≠ some i := kept.place kind ▸ other kind
    exact (kept.others i before).trans (h.others i before)

theorem ListsLast.keep {last : Option Json} (h : s.ListsLast settings last)
    (kept : s.KeepsOthers t)
    (labels : t.groups.map (·.map Group.label) = s.groups.map (·.map Group.label)) :
    t.ListsLast settings last := by
  cases last with
  | none =>
    obtain ⟨unknown, nowhere⟩ := h
    rw [unknown] at labels
    exact ⟨Option.map_eq_none_iff.1 labels, fun kind => (kept.place kind).trans (nowhere kind)⟩
  | some body =>
    obtain ⟨listed, decoded, lists⟩ := h
    exact ⟨listed, decoded, lists.keep kept labels⟩

theorem ListsLast.changes {last : Option Json} (h : s.ListsLast settings last)
    (cs : List Change) : (s.changes cs).ListsLast settings last := by
  induction cs generalizing s with
  | nil => exact h
  | cons c rest ih => exact ih (h.keep (s.keepsOthers_change c) (s.labels_change c))

theorem ListsLast.congr {last : Option Json} (h : s.ListsLast settings last)
    (same : s.unclaimed = t.unclaimed) : t.ListsLast settings last :=
  h.keep ((KeepsOthers.refl s).congr same) (by rw [groups_congr same])

/-! ## Taking in a listing -/

theorem lists_update_groups (s : State) (settings : SyncSettings) (listed : List Group) :
    (s.update settings (.groups listed)).Lists settings listed where
  labels := congrArg some (map_update_groups (s := s) (fun _ => rfl) listed)
  place kind := by cases kind <;> rfl
  others _ other := getElem?_update_groups other

end State

/-- The body of the groups listing that is taken in with an answer, if it is one. -/
def Plan.listing? (plan : Plan) (answer : Answer) : Option Json :=
  match plan, answer with
  | .loadGroups, .ok response =>
    if response.status = 200 ∧ (Group.ofListing response.body).isOk then some response.body
    else none
  | _, _ => none

theorem Plan.listing?_of_error {plan : Plan} {answer : Answer} {failure : Failure}
    (refused : plan.read answer = .error failure) : plan.listing? answer = none := by
  unfold listing?
  split
  · next response =>
    refine if_neg fun ⟨ok, decodes⟩ => ?_
    cases listed : Group.ofListing response.body with
    | error _ =>
      rw [listed] at decodes
      cases decodes
    | ok groups => cases (Plan.read_eq_ok_iff.2 (.groups ok listed)).symm.trans refused
  · rfl

/-- An answer that is read brings a groups listing, or something else. -/
theorem Plan.Reads.listing? {plan : Plan} {answer : Answer} {u : Update}
    (h : plan.Reads answer u) :
    (∃ body listed, plan.listing? answer = some body ∧ Group.ofListing body = .ok listed ∧
      u = .groups listed) ∨ plan.listing? answer = none ∧ ∀ groups, u ≠ .groups groups := by
  cases h with
  | groups ok listed =>
    exact .inl ⟨_, _, if_pos ⟨ok, by rw [listed]; rfl⟩, listed, rfl⟩
  | allOff | lights | membership | values => exact .inr ⟨rfl, nofun⟩

theorem State.ListsLast.take {s : State} {settings : SyncSettings} {last : Option Json}
    (h : s.ListsLast settings last) (plan : Plan) (answer : Answer) (heard : List Change) :
    (s.take settings plan answer heard).ListsLast settings ((plan.listing? answer).or last) := by
  unfold State.take
  cases outcome : plan.read answer with
  | error failure =>
    rw [Plan.listing?_of_error outcome]
    exact h
  | ok u =>
    have now : (s.update settings u).ListsLast settings ((plan.listing? answer).or last) := by
      rcases (Plan.read_eq_ok_iff.1 outcome).listing? with
        ⟨body, listed, brings, decodes, rfl⟩ | ⟨nothing, other⟩
      · rw [brings]
        exact ⟨listed, decodes, s.lists_update_groups settings listed⟩
      · rw [nothing]
        exact h.keep (keepsOthers_update other s settings) (labels_update other s settings)
    simp only
    split
    · exact now.changes heard
    · exact now

/-! ## The last listing of a run -/

namespace Scene

/-- The body of the groups listing that is taken in with an event, if there is one. -/
def listingIn (s : Scene) : Event → Option Json
  | .answer d answer _ _ => (s.underway d).bind (·.listing? answer)
  | _ => none

/-- The body of the last groups listing that is taken in during a run. -/
def lastListing (s : Scene) : List Event → Option Json
  | [] => none
  | e :: events => (lastListing (s.next e) events).or (s.listingIn e)

theorem listsLast_next {s : Scene} {last : Option Json}
    (h : s.state.ListsLast s.sync.settings last) (e : Event) :
    (s.next e).state.ListsLast s.sync.settings ((s.listingIn e).or last) := by
  refine State.ListsLast.congr ?_ (s.unclaimed_next e).symm
  cases e with
  | change canRun c => exact h.keep (s.state.keepsOthers_change c) (s.state.labels_change c)
  | go d => exact h
  | answer d answer canRun heard =>
    cases waiting : s.underway d with
    | none =>
      simp only [settled, listingIn, waiting]
      exact h
    | some plan =>
      simp only [settled, listingIn, waiting]
      exact h.take plan answer heard

theorem listsLast_run {s : Scene} {last : Option Json}
    (h : s.state.ListsLast s.sync.settings last) (events : List Event) :
    (s.run events).state.ListsLast s.sync.settings ((s.lastListing events).or last) := by
  induction events generalizing s last with
  | nil => exact h
  | cons e rest ih =>
    have later := listsLast_next h e
    rw [← s.settings_next e] at later ⊢
    rw [lastListing, Option.or_assoc]
    exact ih later

/-- Two groups have the name of both managed groups, and a second listing fails: the first of them
in bridge order is managed for both values. -/
example :
    let settings := { SyncSettings.manual with brightnessGroup := "A", temperatureGroup := "A" }
    let body : Json := .obj [("10", .obj [("name", .str "A"), ("lights", .strings ["3"])]),
      ("2", .obj [("name", .str "A")]),
      ("1", .obj [("name", .str "B"), ("lights", .strings ["4"])])]
    let lists (body : Json) : List Event :=
      [.go (.hand 0), .answer (.hand 0) (.ok ⟨200, body⟩) true []]
    let events := lists (.obj []) ++ lists body ++ [.change true .requestReload,
      .change true (.addLights .temperature ["4"])] ++ lists (.obj []) ++ lists (.str "busy")
    let s := (new settings .brief).run events
    s.state.brightnessGroup = some 1 ∧ s.state.temperatureGroup = some 1 ∧
      s.state.groups = some [
        .listed "1" "B" (.ofList ["4"]),
        ⟨"2", "A", ⟨some (.ofList ["4"]), true, false⟩, ⟨some 0, true, false⟩,
          ⟨some 0, true, false⟩⟩,
        .listed "10" "A" (.ofList ["3"])] := by
  decide +kernel

end Scene
end Reconciler
end LightSync
