import LightSync.Proofs.Records

/-!
# Records are read back as they were written

Every record that is written as JSON is read back as it was, with what is null in it and what is
not. Parameters of service calls are moved into their ranges when they are read: what was read once
is in range, and reading it again changes nothing.

## Main definitions

- `LightParams.InRange`, `DimParams.InRange`: parameters whose values are in range
- `ReplyItem.WellFormed`, `Settings.WellFormed`: what a bridge, and a file of settings, can hold
-/

namespace LightSync

open Json

/-! ## What is exchanged with the bridge -/

namespace Bridge

theorem Command.ofJson?_toJson (c : Command) : ofJson? c.toJson = some c := by
  have slots : c.toJson.slots? ["on", "bri", "ct", "transitiontime"] = some [
      .ofOption (c.on.map .bool), .ofOption (c.bri.map fun v => .ofNat v.toNat),
      .ofOption (c.ct.map fun v => .ofNat v.toNat),
      .ofOption (c.transition.map fun v => .ofNat v.toNat)] := slots?_sparse rfl (by decide)
  have on := Slot.optional_ofOption (o := c.on) fun v _ => survives_bool v
  have bri := Slot.optional_ofOption (o := c.bri) fun v _ => survives_uint8 v
  have ct := Slot.optional_ofOption (o := c.ct) fun v _ => survives_uint16 v
  have transition := Slot.optional_ofOption (o := c.transition) fun v _ => survives_uint16 v
  rw [ofJson?, slots]
  simp only [Option.bind_eq_bind, Option.bind_some, on, bri, ct, transition]
  rfl

theorem Roster.ofJson?_toJson (r : Roster) : ofJson? r.toJson = some r := by
  have slots : r.toJson.slots? ["lights"] = some [.given (.strings r.lights)] :=
    slots?_obj rfl (by decide)
  rw [ofJson?, slots]
  simp only [Option.bind_eq_bind, Option.bind_some, Slot.required, strings?_strings]
  rfl

theorem ReplyError.ofJson?_toJson {e : ReplyError} (low : -Int.pow 2 63 ≤ e.kind)
    (high : e.kind < Int.pow 2 63) : ofJson? e.toJson = some e := by
  have slots : e.toJson.slots? ["type", "address", "description"] = some [
      .given (.int e.kind), .given (.str e.address), .given (.str e.description)] :=
    slots?_obj rfl (by decide)
  rw [ofJson?, slots]
  simp only [Option.bind_eq_bind, Option.bind_some, Slot.withDefault, int64?_int low high]
  rfl

/-- An item as a bridge can send it: applied attributes are in canonical form, and the number of an
error has 64 bits. -/
def ReplyItem.WellFormed : ReplyItem → Prop
  | success values => (Json.obj values).Canonical
  | error e => -Int.pow 2 63 ≤ e.kind ∧ e.kind < Int.pow 2 63

theorem ReplyItem.ofJson?_toJson {item : ReplyItem} (h : item.WellFormed) :
    ofJson? item.toJson = some item := by
  cases item with
  | success values =>
    have canonical : (Json.obj values).value? = some (.obj values) := value?_of_canonical h
    simp only [ofJson?, toJson, variant?, canonical]
  | error e =>
    simp only [ofJson?, toJson, variant?, ReplyError.ofJson?_toJson h.1 h.2, Option.map_some]

/-- A reply is read back if each of its items is. -/
theorem Reply.ofBody?_items {items : List ReplyItem} (each : ∀ item ∈ items, item.WellFormed) :
    ofBody? (.arr (items.map ReplyItem.toJson)) = some ⟨items⟩ := by
  have read : (items.map ReplyItem.toJson).mapM ReplyItem.ofJson? = some items := by
    refine mapM_eq_some_iff.2 ?_
    rw [List.map_map]
    exact List.map_congr_left fun item mem => ReplyItem.ofJson?_toJson (each item mem)
  rw [ofBody?, list?, read, Option.map_some]

end Bridge

/-! ## What is exchanged with the home platform -/

namespace Household

theorem Entity.ofJson?_toJson (e : Entity) : ofJson? e.toJson = some e := by
  have slots : e.toJson.slots? ["entity_id", "unique_id", "name", "is_on", "brightness",
      "color_temp", "is_bridge_group"] = some [
      .given (.str e.entityId), .given (.ofOption .str e.uniqueId), .given (.str e.name),
      .given (.bool e.isOn), .given (.ofOption (fun v => .ofNat v.toNat) e.brightness),
      .given (.ofOption (fun v => .ofNat v.toNat) e.colorTemp), .given (.bool e.isBridgeGroup)] :=
    slots?_obj rfl (by decide)
  have uniqueId := nullable?_ofOption (o := e.uniqueId) fun v _ => survives_str v
  have brightness := nullable?_ofOption (o := e.brightness) fun v _ => survives_uint8 v
  have colorTemp := nullable?_ofOption (o := e.colorTemp) fun v _ => survives_uint16 v
  rw [ofJson?, slots]
  simp only [Option.bind_eq_bind, Option.bind_some, Slot.required, Slot.optional, uniqueId,
    brightness, colorTemp]
  rfl

/-- A color temperature, if there is one, is in the valid range. -/
def ColorTempInRange (colorTemp : Option UInt16) : Prop :=
  ∀ v ∈ colorTemp, 153 ≤ v.toNat ∧ v.toNat ≤ 454

/-- A fade, if there is one, is in range. -/
def FadeInRange (fade : Option Fade) : Prop := ∀ f ∈ fade, f.InRange

structure LightParams.InRange (p : LightParams) : Prop where
  colorTemp : ColorTempInRange p.colorTemp
  transition : FadeInRange p.transition

structure DimParams.InRange (p : DimParams) : Prop where
  colorTemp : ColorTempInRange p.colorTemp
  dimTransition : FadeInRange p.dimTransition
  offAfter : FadeInRange p.offAfter
  offTransition : FadeInRange p.offTransition

theorem LightParams.ofJson?_toJson {p : LightParams} (h : p.InRange) :
    ofJson? p.toJson = some p := by
  have slots : p.toJson.slots? ["brightness", "color_temp", "transition"] = some [
      .ofOption (p.brightness.map fun v => .ofNat v.toNat),
      .ofOption (p.colorTemp.map fun v => .ofNat v.toNat),
      .ofOption (p.transition.map Fade.toJson)] := slots?_sparse rfl (by decide)
  have brightness := Slot.withDefault_ofOption (o := p.brightness) fun v _ => survives_brightness v
  have colorTemp := Slot.withDefault_ofOption (o := p.colorTemp) fun v mem =>
    survives_colorTemp (h.colorTemp v mem)
  have transition := Slot.withDefault_ofOption (o := p.transition) fun f mem =>
    (h.transition f mem).survives
  rw [ofJson?, slots]
  simp only [Option.bind_eq_bind, Option.bind_some, brightness, colorTemp, transition]
  rfl

theorem DimParams.ofJson?_toJson {p : DimParams} (h : p.InRange) : ofJson? p.toJson = some p := by
  have slots : p.toJson.slots? ["color_temp", "dim_transition", "off_after", "off_transition"] =
      some [.ofOption (p.colorTemp.map fun v => .ofNat v.toNat),
        .ofOption (p.dimTransition.map Fade.toJson), .ofOption (p.offAfter.map Fade.toJson),
        .ofOption (p.offTransition.map Fade.toJson)] := slots?_sparse rfl (by decide)
  have colorTemp := Slot.withDefault_ofOption (o := p.colorTemp) fun v mem =>
    survives_colorTemp (h.colorTemp v mem)
  have fade {fade : Option Fade} (h : FadeInRange fade) :=
    Slot.withDefault_ofOption (o := fade) fun f mem => (h f mem).survives
  rw [ofJson?, slots]
  simp only [Option.bind_eq_bind, Option.bind_some, colorTemp, fade h.dimTransition,
    fade h.offAfter, fade h.offTransition]
  rfl

/-- A call is read back if its parameters are. -/
theorem ServiceCall.ofJson?_toJson {α : Type} {encode : α → Json} {decode : Json → Option α}
    {c : ServiceCall α} (params : decode (encode c.params) = some c.params) :
    ofJson? decode (c.toJson encode) = some c := by
  have slots : (c.toJson encode).slots? ["entity_ids", "params"] =
      some [.given (.strings c.entityIds), .given (encode c.params)] := slots?_obj rfl (by decide)
  rw [ofJson?, slots]
  simp only [Option.bind_eq_bind, Option.bind_some, Slot.required, strings?_strings, params]
  rfl

/-! ## Parameters that were read -/

/-- What was read by a decoder that moves values into range is in range. -/
theorem forall_mem_of_withDefault {α : Type} {decode : Json → Option α} {good : α → Prop}
    (each : ∀ j a, decode j = some a → good a) {slot : Slot} {o : Option α}
    (read : slot.withDefault none (nullable? decode) = some o) : ∀ a ∈ o, good a := by
  intro a mem
  cases mem
  cases slot with
  | given j =>
    cases j with
    | null => cases read
    | _ => exact each _ a (by simpa [Slot.withDefault, nullable?] using read)
  | absent => cases read
  | short => cases read

theorem colorTemp_mem_of_read (j : Json) (v : UInt16) (read : colorTemp? j = some v) :
    153 ≤ v.toNat ∧ v.toNat ≤ 454 := by
  obtain ⟨x, -, rfl⟩ := Option.map_eq_some_iff.1 read
  exact ColorTemp.clamped_mem _

theorem fade_inRange_of_read (j : Json) (f : Fade) (read : Fade.ofJson? j = some f) :
    f.InRange := by
  obtain ⟨x, -, rfl⟩ := Option.map_eq_some_iff.1 read
  exact Fade.inRange_ofSeconds x

theorem LightParams.inRange_of_ofJson? {j : Json} {p : LightParams} (read : ofJson? j = some p) :
    p.InRange := by
  simp only [ofJson?, Option.bind_eq_bind, Option.bind_eq_some_iff] at read
  obtain ⟨slots, -, read⟩ := read
  split at read
  · simp only [Option.bind_eq_some_iff] at read
    obtain ⟨brightness, -, colorTemp, hct, transition, ht, made⟩ := read
    cases made
    exact ⟨forall_mem_of_withDefault colorTemp_mem_of_read hct,
      forall_mem_of_withDefault fade_inRange_of_read ht⟩
  · cases read

theorem DimParams.inRange_of_ofJson? {j : Json} {p : DimParams} (read : ofJson? j = some p) :
    p.InRange := by
  simp only [ofJson?, Option.bind_eq_bind, Option.bind_eq_some_iff] at read
  obtain ⟨slots, -, read⟩ := read
  split at read
  · simp only [Option.bind_eq_some_iff] at read
    obtain ⟨colorTemp, hct, dim, hdim, after, hafter, off, hoff, made⟩ := read
    cases made
    exact ⟨forall_mem_of_withDefault colorTemp_mem_of_read hct,
      forall_mem_of_withDefault fade_inRange_of_read hdim,
      forall_mem_of_withDefault fade_inRange_of_read hafter,
      forall_mem_of_withDefault fade_inRange_of_read hoff⟩
  · cases read

end Household

/-! ## Settings -/

theorem BridgeSettings.ofJson?_toJson {s : BridgeSettings}
    (timeout : s.timeoutSecs < Nat.pow 2 64) : ofJson? s.toJson = some s := by
  have slots : s.toJson.slots? ["host", "username", "https", "timeout_secs",
      "accept_invalid_certs"] = some [
      .given (.str s.host), .given (.str s.username), .given (.bool s.https),
      .given (.ofNat s.timeoutSecs), .given (.bool s.acceptInvalidCerts)] :=
    slots?_obj rfl (by decide)
  rw [ofJson?, slots]
  simp only [Option.bind_eq_bind, Option.bind_some, Slot.withDefault, nat64?_ofNat timeout]
  rfl

/-- The numbers of the settings have 64 bits. -/
structure SyncSettings.WellFormed (s : SyncSettings) : Prop where
  settleDelay : s.settleDelayMs < Nat.pow 2 64
  stepInterval : s.stepIntervalMs < Nat.pow 2 64
  maxSteps : s.maxSteps < Nat.pow 2 64

theorem SyncSettings.ofJson?_toJson {s : SyncSettings} (h : s.WellFormed) :
    ofJson? s.toJson = some s := by
  have slots : s.toJson.slots? ["brightness_group", "temperature_group", "settle_delay_ms",
      "step_interval_ms", "max_steps", "major_transition", "all_off_transition", "background"] =
      some [.given (.str s.brightnessGroup), .given (.str s.temperatureGroup),
        .given (.ofNat s.settleDelayMs), .given (.ofNat s.stepIntervalMs),
        .given (.ofNat s.maxSteps), .given (.ofNat s.majorTransition.toNat),
        .given (.ofNat s.allOffTransition.toNat), .given (.bool s.background)] :=
    slots?_obj rfl (by decide)
  rw [ofJson?, slots]
  simp only [Option.bind_eq_bind, Option.bind_some, Slot.withDefault, nat64?_ofNat h.settleDelay,
    nat64?_ofNat h.stepInterval, nat64?_ofNat h.maxSteps, (survives_uint16 _).read]
  rfl

/-- The fades of the settings are finite. -/
structure HouseSettings.WellFormed (s : HouseSettings) : Prop where
  onTransition : ∀ x ∈ s.onTransition, x.isFinite = true
  offTransition : ∀ x ∈ s.offTransition, x.isFinite = true

theorem HouseSettings.ofJson?_toJson {s : HouseSettings} (h : s.WellFormed) :
    ofJson? s.toJson = some s := by
  have slots : s.toJson.slots? ["excluded_patterns", "on_transition", "off_transition",
      "default_brightness", "default_temperature", "close_enough", "cancel_timers_on_night_mode",
      "repush_on_ready"] = some [
      .given (.strings s.excludedPatterns), .given (.ofOption .ofFloat s.onTransition),
      .given (.ofOption .ofFloat s.offTransition), .given (.ofNat s.defaultBrightness.toNat),
      .given (.ofNat s.defaultTemperature.toNat), .given (.ofNat s.closeEnough.toNat),
      .given (.bool s.cancelTimersOnNightMode), .given (.bool s.repushOnReady)] :=
    slots?_obj rfl (by decide)
  have onTransition := nullable?_ofOption fun x mem => survives_float (h.onTransition x mem)
  have offTransition := nullable?_ofOption fun x mem => survives_float (h.offTransition x mem)
  rw [ofJson?, slots]
  simp only [Option.bind_eq_bind, Option.bind_some, Slot.withDefault, strings?_strings,
    onTransition, offTransition, (survives_uint8 _).read, (survives_uint16 _).read]
  rfl

/-- Settings whose numbers have 64 bits and whose fades are finite. -/
structure Settings.WellFormed (s : Settings) : Prop where
  timeout : s.bridge.timeoutSecs < Nat.pow 2 64
  sync : s.sync.WellFormed
  house : s.house.WellFormed

theorem Settings.ofJson?_toJson {s : Settings} (h : s.WellFormed) : ofJson? s.toJson = some s := by
  have slots : s.toJson.slots? ["bridge", "engine", "adapter"] = some [
      .given s.bridge.toJson, .given s.sync.toJson, .given s.house.toJson] :=
    slots?_obj rfl (by decide)
  rw [ofJson?, slots]
  simp only [Option.bind_eq_bind, Option.bind_some, Slot.withDefault,
    BridgeSettings.ofJson?_toJson h.timeout, SyncSettings.ofJson?_toJson h.sync,
    HouseSettings.ofJson?_toJson h.house]
  rfl

/-! ## All records -/

open Bridge Household in
/-- Every record is read back as it was written. Parameters that were read are in range, and reading
them again gives the same ones. -/
theorem records_survive_encoding :
    (∀ c : Command, Command.ofJson? c.toJson = some c) ∧
    (∀ r : Roster, Roster.ofJson? r.toJson = some r) ∧
    (∀ e : Entity, Entity.ofJson? e.toJson = some e) ∧
    (∀ items : List ReplyItem, (∀ item ∈ items, item.WellFormed) →
      Reply.ofBody? (.arr (items.map ReplyItem.toJson)) = some ⟨items⟩) ∧
    (∀ p : LightParams, p.InRange → LightParams.ofJson? p.toJson = some p) ∧
    (∀ p : DimParams, p.InRange → DimParams.ofJson? p.toJson = some p) ∧
    (∀ c : ServiceCall LightParams, c.params.InRange →
      ServiceCall.ofJson? LightParams.ofJson? (c.toJson LightParams.toJson) = some c) ∧
    (∀ c : ServiceCall DimParams, c.params.InRange →
      ServiceCall.ofJson? DimParams.ofJson? (c.toJson DimParams.toJson) = some c) ∧
    (∀ s : Settings, s.WellFormed → Settings.ofJson? s.toJson = some s) ∧
    (∀ j p, LightParams.ofJson? j = some p →
      p.InRange ∧ LightParams.ofJson? p.toJson = some p) ∧
    (∀ j p, DimParams.ofJson? j = some p →
      p.InRange ∧ DimParams.ofJson? p.toJson = some p) := by
  refine ⟨Command.ofJson?_toJson, Roster.ofJson?_toJson, Entity.ofJson?_toJson,
    fun _ => Reply.ofBody?_items, fun _ => LightParams.ofJson?_toJson,
    fun _ => DimParams.ofJson?_toJson, fun _ h => ?_, fun _ h => ?_,
    fun _ => Settings.ofJson?_toJson, fun j p read => ?_, fun j p read => ?_⟩
  · exact ServiceCall.ofJson?_toJson (LightParams.ofJson?_toJson h)
  · exact ServiceCall.ofJson?_toJson (DimParams.ofJson?_toJson h)
  · have inRange := LightParams.inRange_of_ofJson? read
    exact ⟨inRange, LightParams.ofJson?_toJson inRange⟩
  · have inRange := DimParams.inRange_of_ofJson? read
    exact ⟨inRange, DimParams.ofJson?_toJson inRange⟩

/-- Settings without a fade for turning lights off. -/
def Settings.noOffFade : Settings :=
  { Settings.default with house := { HouseSettings.default with offTransition := none } }

/-- Parameters that ask for less than no fade. -/
def negativeFade : Json := .obj [("color_temp", .int 1000), ("transition", .float (-2.5))]

open Bridge Household in
theorem records_survive_encoding_without_off_fade :
    Settings.ofJson? Settings.noOffFade.toJson = some Settings.noOffFade ∧
    Reply.ofBody? (.arr [ReplyItem.toJson (.error ⟨201, "/groups/1/action/bri", "off"⟩)]) =
      some ⟨[.error ⟨201, "/groups/1/action/bri", "off"⟩]⟩ ∧
    LightParams.ofJson? (LightParams.toJson ⟨none, some 300, some (.ofSeconds 1.5)⟩) =
      some ⟨none, some 300, some (.ofSeconds 1.5)⟩ ∧
    DimParams.ofJson? (DimParams.toJson ⟨some 153, none, some (.ofSeconds 60.0), none⟩) =
      some ⟨some 153, none, some (.ofSeconds 60.0), none⟩ ∧
    ServiceCall.ofJson? LightParams.ofJson?
        (ServiceCall.toJson LightParams.toJson ⟨["light.a"], .none⟩) =
      some ⟨["light.a"], .none⟩ ∧
    ServiceCall.ofJson? DimParams.ofJson?
        (ServiceCall.toJson DimParams.toJson ⟨["light.a"], ⟨none, none, none, none⟩⟩) =
      some ⟨["light.a"], ⟨none, none, none, none⟩⟩ ∧
    LightParams.ofJson? (LightParams.toJson ⟨none, some 454, some ⟨0.0⟩⟩) =
      some ⟨none, some 454, some ⟨0.0⟩⟩ ∧
    DimParams.ofJson? (DimParams.toJson ⟨some 454, none, none, none⟩) =
      some ⟨some 454, none, none, none⟩ := by
  obtain ⟨-, -, -, reply, light, dim, lightCall, dimCall, settings, lightRead, dimRead⟩ :=
    records_survive_encoding
  refine ⟨settings _ ⟨by decide, ⟨by decide, by decide, by decide⟩, ⟨nofun, nofun⟩⟩, ?_, ?_, ?_, ?_,
    ?_, ?_, ?_⟩
  · refine reply [.error ⟨201, "/groups/1/action/bri", "off"⟩] fun item mem => ?_
    cases List.mem_singleton.1 mem
    exact ⟨by decide, by decide⟩
  · refine light _ ⟨?_, ?_⟩
    · simp [ColorTempInRange]
    · rintro f ⟨⟩
      exact Fade.inRange_ofSeconds 1.5
  · refine dim _ ⟨?_, nofun, ?_, nofun⟩
    · simp [ColorTempInRange]
    · rintro f ⟨⟩
      exact Fade.inRange_ofSeconds 60.0
  · exact lightCall _ ⟨nofun, nofun⟩
  · exact dimCall _ ⟨nofun, nofun, nofun, nofun⟩
  · exact (lightRead negativeFade _ (by decide +kernel)).2
  · exact (dimRead negativeFade _ (by decide +kernel)).2

end LightSync
