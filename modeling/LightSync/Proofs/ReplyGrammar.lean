import LightSync.Proofs.Fields
import Mathlib.Data.List.Forall2

/-!
# The grammar of replies

A reply is a list of items, each an object with one member: an object of applied attributes under
`success`, or an error under `error`. An error is a record whose three fields all have defaults.
Decoding accepts exactly these bodies and gives their items in order; any other body, even if a
single item is out of line, has no items and acknowledges nothing.

## Main definitions

- `ReplyError.Reads`, `ReplyItem.Reads`: what the values in a body stand for
- `Reply.Reads`: bodies that follow the grammar, with their items
- `ReplyItem.isError`: refused attributes

## Main results

- `Json.canonical_of_value?`: what is received is in canonical form
- `Reply.ofBody?_eq_some_iff`: decoding accepts exactly the grammar
-/

namespace LightSync

namespace Json

/-! ## Canonical values -/

theorem mem_of_insertMember {key : String} {value : Json} {m : String × Json}
    {members : List (String × Json)} (mem : m ∈ insertMember key value members) :
    m = (key, value) ∨ m ∈ members := by
  induction members with
  | nil => exact .inl (List.mem_singleton.1 mem)
  | cons first rest ih =>
    unfold insertMember at mem
    split at mem
    · exact (List.mem_cons.1 mem).imp_right id
    · split at mem
      · exact (List.mem_cons.1 mem).imp_right (List.mem_cons_of_mem _)
      · rcases List.mem_cons.1 mem with rfl | later
        · exact .inr (List.mem_cons_self ..)
        · exact (ih later).imp_right (List.mem_cons_of_mem _)

/-- Members that are in canonical form, and ascend by key. -/
structure CanonicalMembers (members : List (String × Json)) : Prop where
  ascending : Ascending (keys members)
  each : ∀ m ∈ members, Canonical m.2

theorem CanonicalMembers.insertMember {members : List (String × Json)}
    (h : CanonicalMembers members) {key : String} {value : Json} (canonical : value.Canonical) :
    CanonicalMembers (insertMember key value members) where
  ascending := ascending_insertMember h.ascending key value
  each m mem := by
    rcases mem_of_insertMember mem with rfl | mem
    · exact canonical
    · exact h.each m mem

mutual

/-- The canonical form of a value is in canonical form. -/
theorem canonical_of_value? : {j v : Json} → j.value? = some v → v.Canonical
  | .null, _, h => by cases h; exact .null
  | .bool b, _, h => by cases h; exact .bool b
  | .int n, _, h => by cases h; exact .int n
  | .float x, _, h => by cases h; exact .float x
  | .str s, _, h => by cases h; exact .str s
  | .arr items, _, h => by
    obtain ⟨values, read, rfl⟩ := Option.map_eq_some_iff.1 h
    exact .arr (canonical_of_values? read)
  | .obj members, _, h => by
    obtain ⟨done, read, rfl⟩ := Option.map_eq_some_iff.1 h
    obtain ⟨ascending, each⟩ := canonical_of_members? read ⟨.nil, nofun⟩
    exact .obj ascending each
  | .unreadable, _, h => by cases h

theorem canonical_of_values? : {items values : List Json} → values? items = some values →
    ∀ v ∈ values, v.Canonical
  | [], _, h => by cases h; exact nofun
  | j :: rest, _, h => by
    obtain ⟨v, first, h⟩ := Option.bind_eq_some_iff.1 h
    obtain ⟨vs, others, same⟩ := Option.bind_eq_some_iff.1 h
    cases same
    exact List.forall_mem_cons.2 ⟨canonical_of_value? first, canonical_of_values? others⟩

theorem canonical_of_members? : {members done all : List (String × Json)} →
    members? members done = some all → CanonicalMembers done → CanonicalMembers all
  | [], _, _, h, fine => by cases h; exact fine
  | (k, j) :: rest, _, _, h, fine => by
    obtain ⟨v, first, h⟩ := Option.bind_eq_some_iff.1 h
    exact canonical_of_members? h (fine.insertMember (canonical_of_value? first))

end

theorem Canonical.keysOnce {j : Json} (h : j.Canonical) : j.KeysOnce := by
  rintro members rfl
  cases h with
  | obj ascending =>
    refine ascending.imp fun before => ?_
    rintro rfl
    exact String.lt_irrefl _ before

end Json

namespace Bridge

open Json

/-- Whatever text a response has for its body, the body is in canonical form. -/
theorem Response.canonical_ofText (status : Nat) (text : String) :
    (ofText status text).body.Canonical := by
  unfold ofText
  cases read : valueOfText? text with
  | none => exact .str text
  | some body =>
    obtain ⟨j, -, value⟩ := Option.bind_eq_some_iff.1 read
    exact canonical_of_value? value

/-! ## Errors -/

/-- What an error stands for: an object or a list of its three fields. Each of them may be left
out, but must not be null; an object may have other members. -/
structure ReplyError.Reads (j : Json) (e : ReplyError) : Prop where
  record : j.IsRecord 3
  kind : FieldIs IsInt64 0 (j.part? "type" 0) e.kind
  address : FieldIs IsText "" (j.part? "address" 1) e.address
  description : FieldIs IsText "" (j.part? "description" 2) e.description

theorem ReplyError.ofJson?_eq_some_iff {j : Json} {e : ReplyError} (once : j.KeysOnce) :
    ofJson? j = some e ↔ e.Reads j := by
  obtain ⟨slots, found, record, given⟩ | ⟨found, unfit⟩ :=
    slots?_cases ["type", "address", "description"] once
  · obtain ⟨_, _, rfl, kind, given⟩ := List.map_eq_cons_iff.1 given
    obtain ⟨_, _, rfl, address, given⟩ := List.map_eq_cons_iff.1 given
    obtain ⟨_, _, rfl, description, given⟩ := List.map_eq_cons_iff.1 given
    cases List.map_eq_nil_iff.1 given
    rw [ofJson?, found]
    simp only [Option.bind_eq_bind, Option.bind_some, Slot.withDefault_eq, kind, address,
      description, Option.bind_eq_some_iff, decodes_int64.orDefault_iff,
      decodes_text.orDefault_iff]
    constructor
    · rintro ⟨_, kind, _, address, _, description, same⟩
      cases same
      exact ⟨record, kind, address, description⟩
    · rintro ⟨-, kind, address, description⟩
      exact ⟨_, kind, _, address, _, description, rfl⟩
  · rw [ofJson?, found]
    exact iff_of_false (by simp) fun reads => unfit reads.record

/-! ## Items -/

/-- What an item stands for: an object with a single member, which is an object of applied
attributes, or an error. -/
inductive ReplyItem.Reads : Json → ReplyItem → Prop
  | success (values : List (String × Json)) :
    Reads (.obj [("success", .obj values)]) (.success values)
  | error {content : Json} {e : ReplyError} (reads : e.Reads content) :
    Reads (.obj [("error", content)]) (.error e)

theorem variant?_eq_some_iff {j : Json} {name : String} {content : Json} :
    j.variant? = some (name, content) ↔ j = .obj [(name, content)] := by
  unfold variant?
  split <;> simp_all

theorem ReplyItem.ofJson?_eq_some_iff {j : Json} {item : ReplyItem} (canonical : j.Canonical) :
    ofJson? j = some item ↔ Reads j item := by
  -- A success is read in its canonical form, so what is inside has to be in that form already.
  have inside {name : String} {content : Json} (only : j = .obj [(name, content)]) :
      content.Canonical := by
    subst only
    cases canonical with
    | obj _ each => exact each _ (List.mem_singleton.2 rfl)
  constructor
  · intro h
    unfold ofJson? at h
    split at h
    · next content variant =>
      have only := variant?_eq_some_iff.1 variant
      rw [value?_of_canonical (inside only)] at h
      split at h
      · next values object =>
        cases h
        cases object
        exact only ▸ .success values
      · cases h
    · next content variant =>
      have only := variant?_eq_some_iff.1 variant
      obtain ⟨e, decoded, rfl⟩ := Option.map_eq_some_iff.1 h
      exact only ▸ .error ((ReplyError.ofJson?_eq_some_iff (inside only).keysOnce).1 decoded)
    · cases h
  · rintro (values | reads)
    · simp only [ofJson?, variant?, value?_of_canonical (inside rfl)]
    · have decoded := (ReplyError.ofJson?_eq_some_iff (inside rfl).keysOnce).2 reads
      simp only [ofJson?, variant?, decoded, Option.map_some]

/-- Is the item a refused attribute? -/
def ReplyItem.isError : ReplyItem → Bool
  | success _ => false
  | error _ => true

/-! ## Replies -/

/-- What a body stands for: a list of items, one for each of its elements. -/
def Reply.Reads (body : Json) (r : Reply) : Prop :=
  ∃ elements, body = .arr elements ∧ List.Forall₂ ReplyItem.Reads elements r.items

theorem forall₂_reads_iff {elements : List Json} {items : List ReplyItem}
    (canonical : ∀ j ∈ elements, j.Canonical) :
    elements.mapM ReplyItem.ofJson? = some items ↔ List.Forall₂ ReplyItem.Reads elements items := by
  rw [mapM_eq_some_iff]
  induction elements generalizing items with
  | nil => cases items <;> simp
  | cons j rest ih =>
    obtain ⟨first, others⟩ := List.forall_mem_cons.1 canonical
    cases items with
    | nil => simp
    | cons item items => simp [ReplyItem.ofJson?_eq_some_iff first, ih others]

/-- Decoding accepts exactly the bodies that follow the grammar, and gives what they stand for. -/
theorem Reply.ofBody?_eq_some_iff {body : Json} {r : Reply} (canonical : body.Canonical) :
    ofBody? body = some r ↔ Reads body r := by
  unfold ofBody? Reads
  cases canonical with
  | @arr elements each =>
    simp only [list?, Option.map_eq_some_iff, forall₂_reads_iff each, arr.injEq, exists_eq_left']
    constructor
    · rintro ⟨items, reads, rfl⟩
      exact reads
    · exact fun reads => ⟨r.items, reads, rfl⟩
  | _ => simp [list?]

theorem Reply.map_errors (r : Reply) : r.errors.map .error = r.items.filter (·.isError) := by
  unfold errors
  generalize r.items = items
  induction items with
  | nil => rfl
  | cons item rest ih => cases item <;> simp_all [ReplyItem.isError]

/-- The reply to a request has exactly the items that its body stands for, in order. If the body
follows no grammar, be it for one element that is out of line, the reply has no items and
acknowledges nothing. What is acknowledged for a path is the value that the first success with the
path has for it; the errors are the items that are errors, in order. -/
theorem replies_follow_grammar {response : Response} (received : response.body.Canonical) :
    let reply := Reconciler.replyOf response
    (∀ r, Reply.ofBody? response.body = some r ↔ Reply.Reads response.body r) ∧
      (∀ r, Reply.Reads response.body r → reply = r) ∧
      ((∀ r, ¬ Reply.Reads response.body r) → reply = .empty) ∧
      (∀ elements j, response.body = .arr elements → j ∈ elements →
        (∀ item, ¬ ReplyItem.Reads j item) →
          reply = .empty ∧ ∀ path, reply.acknowledged path = none) ∧
      (∀ path value, reply.acknowledged path = some value ↔
        ∃ earlier values later, reply.items = earlier ++ .success values :: later ∧
          lookup path values = some value ∧
          ∀ others, .success others ∈ earlier → lookup path others = none) ∧
      reply.errors.map .error = reply.items.filter (·.isError) := by
  have decoded (r : Reply) := Reply.ofBody?_eq_some_iff (r := r) received
  have refused (no : ∀ r, ¬ Reply.Reads response.body r) :
      Reconciler.replyOf response = .empty := by
    have undecoded : Reply.ofBody? response.body = none :=
      Option.eq_none_iff_forall_ne_some.2 fun r same => no r ((decoded r).1 same)
    rw [Reconciler.replyOf, undecoded, Option.getD_none]
  refine ⟨decoded, fun r reads => ?_, refused, fun elements j body mem bad => ?_,
    fun path value => Reply.acknowledged_eq_some_iff, Reply.map_errors _⟩
  · rw [Reconciler.replyOf, (decoded r).2 reads, Option.getD_some]
  · have empty : Reconciler.replyOf response = .empty := by
      -- If the body followed the grammar, its bad element would stand for an item too.
      refine refused ?_
      rintro r ⟨_, same, reads⟩
      cases body.symm.trans same
      obtain ⟨i, rfl⟩ := List.get_of_mem mem
      exact bad _ (reads.get i.isLt (reads.length_eq ▸ i.isLt))
    rw [empty]
    exact ⟨rfl, fun _ => rfl⟩

/-- A brightness that was applied, an error as a list that ends after its kind, and one as an object
without a kind. -/
def mixedBody : Json := .arr [
  .obj [("success", .obj [("/groups/1/action/bri", .int 200)])],
  .obj [("error", .arr [.int 6])],
  .obj [("error", .obj [("address", .str "/groups/1/action/ct"), ("hint", .null)])]]

theorem replies_follow_grammar_of_mixed :
    (Response.mk 200 mixedBody).body.Canonical ∧
      (Reconciler.replyOf ⟨200, mixedBody⟩).acknowledged "/groups/1/action/bri" =
        some (.int 200) ∧
      (Reconciler.replyOf ⟨200, mixedBody⟩).errors =
        [⟨6, "", ""⟩, ⟨0, "/groups/1/action/ct", ""⟩] := by
  have canonical : (Response.mk 200 mixedBody).body.Canonical := by
    refine .arr fun j mem => ?_
    simp only [List.mem_cons, List.not_mem_nil, or_false] at mem
    have one {key : String} {j : Json} (inside : j.Canonical) : (obj [(key, j)]).Canonical :=
      .obj (List.pairwise_singleton ..) fun m mem => by cases List.mem_singleton.1 mem; exact inside
    rcases mem with rfl | rfl | rfl
    · exact one (one (.int 200))
    · exact one (.arr fun j mem => by cases List.mem_singleton.1 mem; exact .int 6)
    · refine one (.obj (by decide) fun m mem => ?_)
      simp only [List.mem_cons, List.not_mem_nil, or_false] at mem
      rcases mem with rfl | rfl
      · exact .str _
      · exact .null
  have reads : Reply.Reads mixedBody ⟨[.success [("/groups/1/action/bri", .int 200)],
      .error ⟨6, "", ""⟩, .error ⟨0, "/groups/1/action/ct", ""⟩]⟩ := by
    refine ⟨_, rfl, .cons (.success _) (.cons (.error ?_) (.cons (.error ?_) .nil))⟩
    · exact ⟨(by decide : 1 ≤ 3), ⟨rfl, by decide, by decide⟩, rfl, rfl⟩
    · exact ⟨trivial, rfl, rfl, rfl⟩
  rw [(replies_follow_grammar canonical).2.1 _ reads]
  exact ⟨canonical, rfl, rfl⟩

end Bridge
end LightSync
