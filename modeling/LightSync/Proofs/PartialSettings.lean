import LightSync.Proofs.Overlay
import LightSync.Proofs.RoundTrip
import Mathlib.Tactic.MkIffOfInductiveProp

/-!
# Settings that leave fields out

A text of settings need not have all of them. What it leaves out has its default, so it is read like
the defaults overlaid with it: objects are merged key by key, and anything else is replaced. What it
gives for a field must be of the field's kind, or nothing is read at all; members that no field has
are skipped.

## Main definitions

- `Settings.Reads`, with one such relation for each section: settings that have what is given, and
  the default of every other field
- `Settings.fields`, likewise: the fields of the settings and what may be given for them
- `Settings.known`: settings without members that no field has

## Main results

- `Settings.ofJson?_eq_some_iff`: what is read from a value
- `Settings.reads_overlay`: overlaying the defaults changes nothing, for all values
- `Settings.partial_overlays_default`: settings are read like the defaults overlaid with them
-/

namespace LightSync

open Json

/-! ## The bridge -/

/-- What a section about the bridge stands for: every field has what is given for it, or its
default. -/
@[mk_iff]
structure BridgeSettings.Reads (j : Json) (s : BridgeSettings) : Prop where
  record : j.IsRecord 5
  host : FieldIs IsText default.host (j.part? "host" 0) s.host
  username : FieldIs IsText default.username (j.part? "username" 1) s.username
  https : FieldIs IsFlag default.https (j.part? "https" 2) s.https
  timeoutSecs : FieldIs IsNat64 default.timeoutSecs (j.part? "timeout_secs" 3) s.timeoutSecs
  acceptInvalidCerts : FieldIs IsFlag default.acceptInvalidCerts
    (j.part? "accept_invalid_certs" 4) s.acceptInvalidCerts

/-- What may be given for the fields of a section about the bridge. -/
def BridgeSettings.fields : List (String × (Json → Prop)) := [
  ("host", fun j => ∃ s, IsText j s),
  ("username", fun j => ∃ s, IsText j s),
  ("https", fun j => ∃ b, IsFlag j b),
  ("timeout_secs", fun j => ∃ n, IsNat64 j n),
  ("accept_invalid_certs", fun j => ∃ b, IsFlag j b)]

namespace BridgeSettings

variable {j : Json} {s : BridgeSettings}

theorem ofJson?_eq_some_iff (once : j.KeysOnce) : ofJson? j = some s ↔ s.Reads j := by
  obtain ⟨slots, found, record, given⟩ | ⟨found, unfit⟩ :=
    slots?_cases ["host", "username", "https", "timeout_secs", "accept_invalid_certs"] once
  · simp only [List.zipIdx_cons, List.zipIdx_nil, List.map_cons, List.map_nil,
      List.map_eq_cons_iff, List.map_eq_nil_iff] at given
    obtain ⟨_, _, rfl, host, _, _, rfl, username, _, _, rfl, https, _, _, rfl, timeout, _, _, rfl,
      certs, rfl⟩ := given
    rw [ofJson?, found]
    simp only [Option.bind_eq_bind, Option.bind_some, Slot.withDefault_eq, host, username, https,
      timeout, certs, Option.bind_eq_some_iff, decodes_text.orDefault_iff,
      decodes_flag.orDefault_iff, decodes_nat64.orDefault_iff]
    constructor
    · rintro ⟨_, host, _, username, _, https, _, timeout, _, certs, same⟩
      cases same
      exact ⟨record, host, username, https, timeout, certs⟩
    · rintro ⟨-, host, username, https, timeout, certs⟩
      exact ⟨_, host, _, username, _, https, _, timeout, _, certs, rfl⟩
  · rw [ofJson?, found]
    exact iff_of_false (by simp) fun reads => unfit reads.record

theorem exists_reads_iff : (∃ s : BridgeSettings, s.Reads j) ↔ j.Fits fields := by
  constructor
  · rintro ⟨s, reads⟩
    refine ⟨reads.record, ?_⟩
    simp only [fields, List.zipIdx_cons, List.zipIdx_nil, List.forall_mem_cons]
    exact ⟨reads.host.fits, reads.username.fits, reads.https.fits, reads.timeoutSecs.fits,
      reads.acceptInvalidCerts.fits, nofun⟩
  · rintro ⟨record, each⟩
    simp only [fields, List.zipIdx_cons, List.zipIdx_nil, List.forall_mem_cons] at each
    obtain ⟨host, username, https, timeout, certs, -⟩ := each
    obtain ⟨_, host⟩ := exists_fieldIs default.host host
    obtain ⟨_, username⟩ := exists_fieldIs default.username username
    obtain ⟨_, https⟩ := exists_fieldIs default.https https
    obtain ⟨_, timeout⟩ := exists_fieldIs default.timeoutSecs timeout
    obtain ⟨_, certs⟩ := exists_fieldIs default.acceptInvalidCerts certs
    exact ⟨⟨_, _, _, _, _⟩, record, host, username, https, timeout, certs⟩

theorem keysOnce_toJson (s : BridgeSettings) : s.toJson.KeysOnce := by
  rintro _ ⟨⟩
  exact of_decide_eq_true rfl

theorem reads_default : s.Reads default.toJson ↔ s = default :=
  means_iff_eq (ofJson?_eq_some_iff (keysOnce_toJson default)) (ofJson?_toJson (by decide))

theorem reads_overlay : s.Reads (default.toJson.overlay j) ↔ s.Reads j := by
  cases j with
  | obj top =>
    rw [reads_iff, reads_iff]
    exact and_congr .rfl <|
      and_congr (decodes_text.fieldIs_overlay rfl rfl (fun _ => rfl) 0) <|
      and_congr (decodes_text.fieldIs_overlay rfl rfl (fun _ => rfl) 1) <|
      and_congr (decodes_flag.fieldIs_overlay rfl rfl (fun _ => rfl) 2) <|
      and_congr (decodes_nat64.fieldIs_overlay rfl rfl (fun _ => rfl) 3) <|
      decodes_flag.fieldIs_overlay rfl rfl (fun _ => rfl) 4
  | _ => rfl

theorem reads_only : s.Reads (j.only (fields.map Prod.fst)) ↔ s.Reads j := by
  simp [reads_iff, isRecord_only, part?_only, fields]

end BridgeSettings

/-! ## The reconciliation -/

/-- What a section about the reconciliation stands for: every field has what is given for it, or its
default. -/
@[mk_iff]
structure SyncSettings.Reads (j : Json) (s : SyncSettings) : Prop where
  record : j.IsRecord 8
  brightnessGroup : FieldIs IsText default.brightnessGroup (j.part? "brightness_group" 0)
    s.brightnessGroup
  temperatureGroup : FieldIs IsText default.temperatureGroup (j.part? "temperature_group" 1)
    s.temperatureGroup
  settleDelayMs : FieldIs IsNat64 default.settleDelayMs (j.part? "settle_delay_ms" 2)
    s.settleDelayMs
  stepIntervalMs : FieldIs IsNat64 default.stepIntervalMs (j.part? "step_interval_ms" 3)
    s.stepIntervalMs
  maxSteps : FieldIs IsNat64 default.maxSteps (j.part? "max_steps" 4) s.maxSteps
  majorTransition : FieldIs IsUInt16 default.majorTransition (j.part? "major_transition" 5)
    s.majorTransition
  allOffTransition : FieldIs IsUInt16 default.allOffTransition (j.part? "all_off_transition" 6)
    s.allOffTransition
  background : FieldIs IsFlag default.background (j.part? "background" 7) s.background

/-- What may be given for the fields of a section about the reconciliation. -/
def SyncSettings.fields : List (String × (Json → Prop)) := [
  ("brightness_group", fun j => ∃ s, IsText j s),
  ("temperature_group", fun j => ∃ s, IsText j s),
  ("settle_delay_ms", fun j => ∃ n, IsNat64 j n),
  ("step_interval_ms", fun j => ∃ n, IsNat64 j n),
  ("max_steps", fun j => ∃ n, IsNat64 j n),
  ("major_transition", fun j => ∃ v, IsUInt16 j v),
  ("all_off_transition", fun j => ∃ v, IsUInt16 j v),
  ("background", fun j => ∃ b, IsFlag j b)]

namespace SyncSettings

variable {j : Json} {s : SyncSettings}

theorem ofJson?_eq_some_iff (once : j.KeysOnce) : ofJson? j = some s ↔ s.Reads j := by
  obtain ⟨slots, found, record, given⟩ | ⟨found, unfit⟩ :=
    slots?_cases ["brightness_group", "temperature_group", "settle_delay_ms", "step_interval_ms",
      "max_steps", "major_transition", "all_off_transition", "background"] once
  · simp only [List.zipIdx_cons, List.zipIdx_nil, List.map_cons, List.map_nil,
      List.map_eq_cons_iff, List.map_eq_nil_iff] at given
    obtain ⟨_, _, rfl, brightness, _, _, rfl, temperature, _, _, rfl, delay, _, _, rfl, interval,
      _, _, rfl, steps, _, _, rfl, major, _, _, rfl, allOff, _, _, rfl, background, rfl⟩ := given
    rw [ofJson?, found]
    simp only [Option.bind_eq_bind, Option.bind_some, Slot.withDefault_eq, brightness, temperature,
      delay, interval, steps, major, allOff, background, Option.bind_eq_some_iff,
      decodes_text.orDefault_iff, decodes_flag.orDefault_iff, decodes_nat64.orDefault_iff,
      decodes_uint16.orDefault_iff]
    constructor
    · rintro ⟨_, brightness, _, temperature, _, delay, _, interval, _, steps, _, major, _, allOff,
        _, background, same⟩
      cases same
      exact ⟨record, brightness, temperature, delay, interval, steps, major, allOff, background⟩
    · rintro ⟨-, brightness, temperature, delay, interval, steps, major, allOff, background⟩
      exact ⟨_, brightness, _, temperature, _, delay, _, interval, _, steps, _, major, _, allOff,
        _, background, rfl⟩
  · rw [ofJson?, found]
    exact iff_of_false (by simp) fun reads => unfit reads.record

theorem exists_reads_iff : (∃ s : SyncSettings, s.Reads j) ↔ j.Fits fields := by
  constructor
  · rintro ⟨s, reads⟩
    refine ⟨reads.record, ?_⟩
    simp only [fields, List.zipIdx_cons, List.zipIdx_nil, List.forall_mem_cons]
    exact ⟨reads.brightnessGroup.fits, reads.temperatureGroup.fits, reads.settleDelayMs.fits,
      reads.stepIntervalMs.fits, reads.maxSteps.fits, reads.majorTransition.fits,
      reads.allOffTransition.fits, reads.background.fits, nofun⟩
  · rintro ⟨record, each⟩
    simp only [fields, List.zipIdx_cons, List.zipIdx_nil, List.forall_mem_cons] at each
    obtain ⟨brightness, temperature, delay, interval, steps, major, allOff, background, -⟩ := each
    obtain ⟨_, brightness⟩ := exists_fieldIs default.brightnessGroup brightness
    obtain ⟨_, temperature⟩ := exists_fieldIs default.temperatureGroup temperature
    obtain ⟨_, delay⟩ := exists_fieldIs default.settleDelayMs delay
    obtain ⟨_, interval⟩ := exists_fieldIs default.stepIntervalMs interval
    obtain ⟨_, steps⟩ := exists_fieldIs default.maxSteps steps
    obtain ⟨_, major⟩ := exists_fieldIs default.majorTransition major
    obtain ⟨_, allOff⟩ := exists_fieldIs default.allOffTransition allOff
    obtain ⟨_, background⟩ := exists_fieldIs default.background background
    exact ⟨⟨_, _, _, _, _, _, _, _⟩, record, brightness, temperature, delay, interval, steps,
      major, allOff, background⟩

theorem wellFormed_default : default.WellFormed := ⟨by decide, by decide, by decide⟩

theorem keysOnce_toJson (s : SyncSettings) : s.toJson.KeysOnce := by
  rintro _ ⟨⟩
  exact of_decide_eq_true rfl

theorem reads_default : s.Reads default.toJson ↔ s = default :=
  means_iff_eq (ofJson?_eq_some_iff (keysOnce_toJson default)) (ofJson?_toJson wellFormed_default)

theorem reads_overlay : s.Reads (default.toJson.overlay j) ↔ s.Reads j := by
  cases j with
  | obj top =>
    rw [reads_iff, reads_iff]
    exact and_congr .rfl <|
      and_congr (decodes_text.fieldIs_overlay rfl rfl (fun _ => rfl) 0) <|
      and_congr (decodes_text.fieldIs_overlay rfl rfl (fun _ => rfl) 1) <|
      and_congr (decodes_nat64.fieldIs_overlay rfl rfl (fun _ => rfl) 2) <|
      and_congr (decodes_nat64.fieldIs_overlay rfl rfl (fun _ => rfl) 3) <|
      and_congr (decodes_nat64.fieldIs_overlay rfl rfl (fun _ => rfl) 4) <|
      and_congr (decodes_uint16.fieldIs_overlay rfl rfl (fun _ => rfl) 5) <|
      and_congr (decodes_uint16.fieldIs_overlay rfl rfl (fun _ => rfl) 6) <|
      decodes_flag.fieldIs_overlay rfl rfl (fun _ => rfl) 7
  | _ => rfl

theorem reads_only : s.Reads (j.only (fields.map Prod.fst)) ↔ s.Reads j := by
  simp [reads_iff, isRecord_only, part?_only, fields]

end SyncSettings

/-! ## The house -/

/-- What a section about the house stands for: every field has what is given for it, or its
default. A fade that is given as null is switched off. -/
@[mk_iff]
structure HouseSettings.Reads (j : Json) (s : HouseSettings) : Prop where
  record : j.IsRecord 8
  excludedPatterns : FieldIs IsTexts default.excludedPatterns (j.part? "excluded_patterns" 0)
    s.excludedPatterns
  onTransition : FieldIs IsNumber? default.onTransition (j.part? "on_transition" 1) s.onTransition
  offTransition : FieldIs IsNumber? default.offTransition (j.part? "off_transition" 2)
    s.offTransition
  defaultBrightness : FieldIs IsUInt8 default.defaultBrightness (j.part? "default_brightness" 3)
    s.defaultBrightness
  defaultTemperature : FieldIs IsUInt16 default.defaultTemperature
    (j.part? "default_temperature" 4) s.defaultTemperature
  closeEnough : FieldIs IsUInt16 default.closeEnough (j.part? "close_enough" 5) s.closeEnough
  cancelTimersOnNightMode : FieldIs IsFlag default.cancelTimersOnNightMode
    (j.part? "cancel_timers_on_night_mode" 6) s.cancelTimersOnNightMode
  repushOnReady : FieldIs IsFlag default.repushOnReady (j.part? "repush_on_ready" 7)
    s.repushOnReady

/-- What may be given for the fields of a section about the house. -/
def HouseSettings.fields : List (String × (Json → Prop)) := [
  ("excluded_patterns", fun j => ∃ names, IsTexts j names),
  ("on_transition", fun j => ∃ x, IsNumber? j x),
  ("off_transition", fun j => ∃ x, IsNumber? j x),
  ("default_brightness", fun j => ∃ v, IsUInt8 j v),
  ("default_temperature", fun j => ∃ v, IsUInt16 j v),
  ("close_enough", fun j => ∃ v, IsUInt16 j v),
  ("cancel_timers_on_night_mode", fun j => ∃ b, IsFlag j b),
  ("repush_on_ready", fun j => ∃ b, IsFlag j b)]

namespace HouseSettings

variable {j : Json} {s : HouseSettings}

theorem ofJson?_eq_some_iff (once : j.KeysOnce) : ofJson? j = some s ↔ s.Reads j := by
  obtain ⟨slots, found, record, given⟩ | ⟨found, unfit⟩ :=
    slots?_cases ["excluded_patterns", "on_transition", "off_transition", "default_brightness",
      "default_temperature", "close_enough", "cancel_timers_on_night_mode", "repush_on_ready"] once
  · simp only [List.zipIdx_cons, List.zipIdx_nil, List.map_cons, List.map_nil,
      List.map_eq_cons_iff, List.map_eq_nil_iff] at given
    obtain ⟨_, _, rfl, excluded, _, _, rfl, on, _, _, rfl, off, _, _, rfl, brightness,
      _, _, rfl, temperature, _, _, rfl, close, _, _, rfl, cancel, _, _, rfl, repush, rfl⟩ := given
    rw [ofJson?, found]
    simp only [Option.bind_eq_bind, Option.bind_some, Slot.withDefault_eq, excluded, on, off,
      brightness, temperature, close, cancel, repush, Option.bind_eq_some_iff,
      decodes_texts.orDefault_iff, decodes_number?.orDefault_iff, decodes_uint8.orDefault_iff,
      decodes_uint16.orDefault_iff, decodes_flag.orDefault_iff]
    constructor
    · rintro ⟨_, excluded, _, on, _, off, _, brightness, _, temperature, _, close, _, cancel,
        _, repush, same⟩
      cases same
      exact ⟨record, excluded, on, off, brightness, temperature, close, cancel, repush⟩
    · rintro ⟨-, excluded, on, off, brightness, temperature, close, cancel, repush⟩
      exact ⟨_, excluded, _, on, _, off, _, brightness, _, temperature, _, close, _, cancel,
        _, repush, rfl⟩
  · rw [ofJson?, found]
    exact iff_of_false (by simp) fun reads => unfit reads.record

theorem exists_reads_iff : (∃ s : HouseSettings, s.Reads j) ↔ j.Fits fields := by
  constructor
  · rintro ⟨s, reads⟩
    refine ⟨reads.record, ?_⟩
    simp only [fields, List.zipIdx_cons, List.zipIdx_nil, List.forall_mem_cons]
    exact ⟨reads.excludedPatterns.fits, reads.onTransition.fits, reads.offTransition.fits,
      reads.defaultBrightness.fits, reads.defaultTemperature.fits, reads.closeEnough.fits,
      reads.cancelTimersOnNightMode.fits, reads.repushOnReady.fits, nofun⟩
  · rintro ⟨record, each⟩
    simp only [fields, List.zipIdx_cons, List.zipIdx_nil, List.forall_mem_cons] at each
    obtain ⟨excluded, on, off, brightness, temperature, close, cancel, repush, -⟩ := each
    obtain ⟨_, excluded⟩ := exists_fieldIs default.excludedPatterns excluded
    obtain ⟨_, on⟩ := exists_fieldIs default.onTransition on
    obtain ⟨_, off⟩ := exists_fieldIs default.offTransition off
    obtain ⟨_, brightness⟩ := exists_fieldIs default.defaultBrightness brightness
    obtain ⟨_, temperature⟩ := exists_fieldIs default.defaultTemperature temperature
    obtain ⟨_, close⟩ := exists_fieldIs default.closeEnough close
    obtain ⟨_, cancel⟩ := exists_fieldIs default.cancelTimersOnNightMode cancel
    obtain ⟨_, repush⟩ := exists_fieldIs default.repushOnReady repush
    exact ⟨⟨_, _, _, _, _, _, _, _⟩, record, excluded, on, off, brightness, temperature, close,
      cancel, repush⟩

theorem wellFormed_default : default.WellFormed where
  onTransition := nofun
  offTransition := by
    rintro _ ⟨⟩
    decide

theorem keysOnce_toJson (s : HouseSettings) : s.toJson.KeysOnce := by
  rintro _ ⟨⟩
  exact of_decide_eq_true rfl

theorem reads_default : s.Reads default.toJson ↔ s = default :=
  means_iff_eq (ofJson?_eq_some_iff (keysOnce_toJson default)) (ofJson?_toJson wellFormed_default)

theorem reads_overlay : s.Reads (default.toJson.overlay j) ↔ s.Reads j := by
  -- Only finite numbers are written as such, so this default needs more than unfolding.
  have finite : Float.isFinite 1.5 = true := wellFormed_default.offTransition 1.5 rfl
  have seconds : nullable? float? (.ofFloat 1.5) = some (some 1.5) :=
    (survives_float finite).nullable?
  have whole (other : Json) : (Json.ofFloat 1.5).overlay other = other := by
    rw [ofFloat, if_pos finite]
    rfl
  cases j with
  | obj top =>
    rw [reads_iff, reads_iff]
    exact and_congr .rfl <|
      and_congr (decodes_texts.fieldIs_overlay rfl (strings?_strings _) (fun _ => rfl) 0) <|
      and_congr (decodes_number?.fieldIs_overlay rfl rfl (fun _ => rfl) 1) <|
      and_congr (decodes_number?.fieldIs_overlay rfl seconds whole 2) <|
      and_congr (decodes_uint8.fieldIs_overlay rfl rfl (fun _ => rfl) 3) <|
      and_congr (decodes_uint16.fieldIs_overlay rfl rfl (fun _ => rfl) 4) <|
      and_congr (decodes_uint16.fieldIs_overlay rfl rfl (fun _ => rfl) 5) <|
      and_congr (decodes_flag.fieldIs_overlay rfl rfl (fun _ => rfl) 6) <|
      decodes_flag.fieldIs_overlay rfl rfl (fun _ => rfl) 7
  | _ => rfl

theorem reads_only : s.Reads (j.only (fields.map Prod.fst)) ↔ s.Reads j := by
  simp [reads_iff, isRecord_only, part?_only, fields]

end HouseSettings

/-! ## All settings -/

/-- What a text of settings stands for: every section has what is given for it, or its defaults. -/
@[mk_iff]
structure Settings.Reads (j : Json) (s : Settings) : Prop where
  record : j.IsRecord 3
  bridge : FieldIs BridgeSettings.Reads .default (j.part? "bridge" 0) s.bridge
  sync : FieldIs SyncSettings.Reads .default (j.part? "engine" 1) s.sync
  house : FieldIs HouseSettings.Reads .default (j.part? "adapter" 2) s.house

namespace Settings

/-- What may be given for the sections. -/
def fields : List (String × (Json → Prop)) := [
  ("bridge", Json.Fits BridgeSettings.fields),
  ("engine", Json.Fits SyncSettings.fields),
  ("adapter", Json.Fits HouseSettings.fields)]

/-- The sections and the names of their fields. -/
def sections : List (String × List String) := [
  ("bridge", BridgeSettings.fields.map Prod.fst),
  ("engine", SyncSettings.fields.map Prod.fst),
  ("adapter", HouseSettings.fields.map Prod.fst)]

/-- Settings without members that no field has. -/
def known (j : Json) : Json := j.onlyWithin sections

variable {j : Json} {s : Settings}

theorem ofJson?_eq_some_iff (once : j.Unambiguous) : ofJson? j = some s ↔ s.Reads j := by
  obtain ⟨slots, found, record, given⟩ | ⟨found, unfit⟩ :=
    slots?_cases ["bridge", "engine", "adapter"] once.own
  · simp only [List.zipIdx_cons, List.zipIdx_nil, List.map_cons, List.map_nil,
      List.map_eq_cons_iff, List.map_eq_nil_iff] at given
    obtain ⟨_, _, rfl, bridge, _, _, rfl, sync, _, _, rfl, house, rfl⟩ := given
    rw [ofJson?, found]
    simp only [Option.bind_eq_bind, Option.bind_some, Slot.withDefault_eq, bridge, sync, house,
      Option.bind_eq_some_iff, once.orDefault_iff BridgeSettings.ofJson?_eq_some_iff,
      once.orDefault_iff SyncSettings.ofJson?_eq_some_iff,
      once.orDefault_iff HouseSettings.ofJson?_eq_some_iff]
    constructor
    · rintro ⟨_, bridge, _, sync, _, house, same⟩
      cases same
      exact ⟨record, bridge, sync, house⟩
    · rintro ⟨-, bridge, sync, house⟩
      exact ⟨_, bridge, _, sync, _, house, rfl⟩
  · rw [ofJson?, found]
    exact iff_of_false (by simp) fun reads => unfit reads.record

theorem exists_reads_iff : (∃ s : Settings, s.Reads j) ↔ j.Fits fields := by
  constructor
  · rintro ⟨s, reads⟩
    refine ⟨reads.record, ?_⟩
    simp only [fields, List.zipIdx_cons, List.zipIdx_nil, List.forall_mem_cons,
      ← BridgeSettings.exists_reads_iff, ← SyncSettings.exists_reads_iff,
      ← HouseSettings.exists_reads_iff]
    exact ⟨reads.bridge.fits, reads.sync.fits, reads.house.fits, nofun⟩
  · rintro ⟨record, each⟩
    simp only [fields, List.zipIdx_cons, List.zipIdx_nil, List.forall_mem_cons,
      ← BridgeSettings.exists_reads_iff, ← SyncSettings.exists_reads_iff,
      ← HouseSettings.exists_reads_iff] at each
    obtain ⟨bridge, sync, house, -⟩ := each
    obtain ⟨_, bridge⟩ := exists_fieldIs .default bridge
    obtain ⟨_, sync⟩ := exists_fieldIs .default sync
    obtain ⟨_, house⟩ := exists_fieldIs .default house
    exact ⟨⟨_, _, _⟩, record, bridge, sync, house⟩

theorem unambiguous_toJson (s : Settings) : s.toJson.Unambiguous where
  own := by
    rintro _ ⟨⟩
    exact of_decide_eq_true rfl
  inner := by
    have parts : s.toJson.parts = [s.bridge.toJson, s.sync.toJson, s.house.toJson] := rfl
    simp only [parts, List.forall_mem_cons]
    exact ⟨BridgeSettings.keysOnce_toJson _, SyncSettings.keysOnce_toJson _,
      HouseSettings.keysOnce_toJson _, nofun⟩

theorem reads_overlay : s.Reads (default.toJson.overlay j) ↔ s.Reads j := by
  cases j with
  | obj top =>
    rw [reads_iff, reads_iff]
    exact and_congr .rfl <|
      and_congr (fieldIs_overlay rfl BridgeSettings.reads_default
        (fun _ => BridgeSettings.reads_overlay) 0) <|
      and_congr (fieldIs_overlay rfl SyncSettings.reads_default
        (fun _ => SyncSettings.reads_overlay) 1) <|
      fieldIs_overlay rfl HouseSettings.reads_default (fun _ => HouseSettings.reads_overlay) 2
  | _ => rfl

theorem reads_known : s.Reads (known j) ↔ s.Reads j := by
  cases j with
  | obj members =>
    rw [reads_iff, reads_iff]
    exact and_congr .rfl <|
      and_congr (fieldIs_onlyWithin rfl (fun _ => BridgeSettings.reads_only) 0) <|
      and_congr (fieldIs_onlyWithin rfl (fun _ => SyncSettings.reads_only) 1) <|
      fieldIs_onlyWithin rfl (fun _ => HouseSettings.reads_only) 2
  | _ => rfl

/-- Settings may leave fields out. They are read like the defaults overlaid with them: what is left
out has its default, and what is given must be of the field's kind. Members that no field has change
nothing. -/
theorem partial_overlays_default {o : Json} (once : o.Unambiguous) :
    ofJson? (default.toJson.overlay o) = ofJson? o ∧
    (∀ text, Json.ofText? text = some o → ofText? text = ofJson? (default.toJson.overlay o)) ∧
    (∀ s, ofJson? o = some s ↔ s.Reads o) ∧
    ((∃ s, ofJson? o = some s) ↔ o.Fits fields) ∧
    ofJson? (known o) = ofJson? o := by
  -- What is read is compared as a relation, which neither merging nor skipping changes.
  have reads (s : Settings) : ofJson? o = some s ↔ s.Reads o := ofJson?_eq_some_iff once
  have overlaid : ofJson? (default.toJson.overlay o) = ofJson? o := by
    apply Option.ext
    intro s
    rw [ofJson?_eq_some_iff ((unambiguous_toJson default).overlay once), reads_overlay, reads]
  have skipped : ofJson? (known o) = ofJson? o := by
    have known_iff (s : Settings) : ofJson? (known o) = some s ↔ s.Reads (known o) :=
      ofJson?_eq_some_iff once.onlyWithin
    apply Option.ext
    intro s
    rw [known_iff, reads_known, reads]
  refine ⟨overlaid, ?_, reads, ?_, skipped⟩
  · intro text parsed
    rw [overlaid, ofText?, decodeText?, parsed, Option.bind_some]
  · simp only [reads]
    exact exists_reads_iff

/-- Settings of a house that turns its lights off at once, with a list for the bridge and a member
that no field has. -/
def sparse : Json := .obj [
  ("bridge", .arr [.str "10.0.0.2"]),
  ("engine", .obj [("max_steps", .int 3)]),
  ("adapter", .obj [("off_transition", .null), ("porch", .int 1)])]

theorem partial_overlays_default_of_sparse :
    sparse.Unambiguous ∧
    ofJson? (default.toJson.overlay sparse) = some
      { bridge := { BridgeSettings.default with host := "10.0.0.2" }
        sync := { SyncSettings.default with maxSteps := 3 }
        house := { HouseSettings.default with offTransition := none } } ∧
    ofJson? (known sparse) = ofJson? sparse := by
  have once : sparse.Unambiguous := by
    refine ⟨?_, ?_⟩
    · rintro _ ⟨⟩
      decide
    · simp only [sparse, parts, List.map_cons, List.map_nil, List.forall_mem_cons]
      refine ⟨nofun, ?_, ?_, nofun⟩
      all_goals
        rintro _ ⟨⟩
        decide
  obtain ⟨overlaid, -, -, -, skipped⟩ := partial_overlays_default once
  refine ⟨once, ?_, skipped⟩
  rw [overlaid]
  rfl

end Settings

end LightSync
