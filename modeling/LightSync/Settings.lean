import LightSync.Json.Reader
import LightSync.Quantity.Fade

/-!
# Settings

The settings of the bridge connection, of the reconciliation and of the house, usually read from a
JSON text. Every field has a default, so the empty object is a complete text.

## Main definitions

- `BridgeSettings`, `SyncSettings`, `HouseSettings`, `Settings`
- `Settings.ofText?`: from a JSON text
- `BridgeSettings.baseUri`, `HouseSettings.isAutomatic`
-/

namespace LightSync

/-- Where the bridge is and how to talk to it. -/
structure BridgeSettings where
  host : String
  /-- The key under which the bridge knows its client. -/
  username : String
  https : Bool
  timeoutSecs : Nat
  acceptInvalidCerts : Bool
deriving DecidableEq, Repr

namespace BridgeSettings

def default : BridgeSettings := ⟨"192.168.1.2", "", false, 10, false⟩

instance : Inhabited BridgeSettings := ⟨default⟩

/-- What all paths are appended to. -/
def baseUri (s : BridgeSettings) : String :=
  (if s.https then "https" else "http") ++ "://" ++ s.host ++ "/api/" ++ s.username

def toJson (s : BridgeSettings) : Json :=
  .obj [
    ("host", .str s.host),
    ("username", .str s.username),
    ("https", .bool s.https),
    ("timeout_secs", .ofNat s.timeoutSecs),
    ("accept_invalid_certs", .bool s.acceptInvalidCerts)]

def ofJson? (j : Json) : Option BridgeSettings := do
  let [host, username, https, timeoutSecs, acceptInvalidCerts] ←
    j.slots? ["host", "username", "https", "timeout_secs", "accept_invalid_certs"] | none
  return {
    host := ← host.withDefault default.host Json.string?
    username := ← username.withDefault default.username Json.string?
    https := ← https.withDefault default.https Json.bool?
    timeoutSecs := ← timeoutSecs.withDefault default.timeoutSecs Json.nat64?
    acceptInvalidCerts := ←
      acceptInvalidCerts.withDefault default.acceptInvalidCerts Json.bool? }

end BridgeSettings

/-- How the managed groups are reconciled. -/
structure SyncSettings where
  brightnessGroup : String
  temperatureGroup : String
  /-- Milliseconds before the first step of a loop, so that a burst of changes is taken together. -/
  settleDelayMs : Nat
  /-- Milliseconds between two steps. -/
  stepIntervalMs : Nat
  maxSteps : Nat
  /-- Fade of major changes, in tenths of a second. -/
  majorTransition : UInt16
  /-- Fade of the all-off command when none is given, in tenths of a second. -/
  allOffTransition : UInt16
  /-- Does a change start a loop? If not, steps are run by hand. -/
  background : Bool
deriving DecidableEq, Repr

namespace SyncSettings

def default : SyncSettings :=
  ⟨"Auto Brightness", "Auto Temperature", 2000, 1000, 10, 100, 25, true⟩

/-- The defaults without loops. -/
def manual : SyncSettings := { default with background := false }

instance : Inhabited SyncSettings := ⟨default⟩

def toJson (s : SyncSettings) : Json :=
  .obj [
    ("brightness_group", .str s.brightnessGroup),
    ("temperature_group", .str s.temperatureGroup),
    ("settle_delay_ms", .ofNat s.settleDelayMs),
    ("step_interval_ms", .ofNat s.stepIntervalMs),
    ("max_steps", .ofNat s.maxSteps),
    ("major_transition", .ofNat s.majorTransition.toNat),
    ("all_off_transition", .ofNat s.allOffTransition.toNat),
    ("background", .bool s.background)]

def ofJson? (j : Json) : Option SyncSettings := do
  let [brightnessGroup, temperatureGroup, settleDelay, stepInterval, maxSteps, majorTransition,
      allOffTransition, background] ←
    j.slots? ["brightness_group", "temperature_group", "settle_delay_ms", "step_interval_ms",
      "max_steps", "major_transition", "all_off_transition", "background"] | none
  return {
    brightnessGroup := ← brightnessGroup.withDefault default.brightnessGroup Json.string?
    temperatureGroup := ← temperatureGroup.withDefault default.temperatureGroup Json.string?
    settleDelayMs := ← settleDelay.withDefault default.settleDelayMs Json.nat64?
    stepIntervalMs := ← stepInterval.withDefault default.stepIntervalMs Json.nat64?
    maxSteps := ← maxSteps.withDefault default.maxSteps Json.nat64?
    majorTransition := ← majorTransition.withDefault default.majorTransition Json.uint16?
    allOffTransition := ← allOffTransition.withDefault default.allOffTransition Json.uint16?
    background := ← background.withDefault default.background Json.bool? }

end SyncSettings

/-- How commands of the home platform are treated. -/
structure HouseSettings where
  /-- Entities whose id contains one of these are never tracked. -/
  excludedPatterns : List String
  /-- Seconds of the fade with which a tracked light is turned on unless one is given. -/
  onTransition : Option Float
  /-- Seconds of the fade with which a tracked light is turned off unless one is given. -/
  offTransition : Option Float
  /-- Desired brightness until the home platform reports one. -/
  defaultBrightness : UInt8
  /-- Desired color temperature until the home platform reports one. -/
  defaultTemperature : UInt16
  /-- A light whose value differs by less than this still follows the desired one. -/
  closeEnough : UInt16
  cancelTimersOnNightMode : Bool
  /-- Is everything desired pushed again whenever the managed groups were loaded? -/
  repushOnReady : Bool
deriving DecidableEq

def containsText (pattern : List Char) : List Char → Bool
  | [] => pattern.isEmpty
  | c :: rest => pattern.isPrefixOf (c :: rest) || containsText pattern rest

namespace HouseSettings

def default : HouseSettings :=
  ⟨["light.veranda", "light.tv_", "light.bed_"], none, some 1.5, 255, 200, 10, true, true⟩

instance : Inhabited HouseSettings := ⟨default⟩

def onFade (s : HouseSettings) : Option Fade := s.onTransition.map .ofSeconds

def offFade (s : HouseSettings) : Option Fade := s.offTransition.map .ofSeconds

/-- May the entity be tracked? -/
def isAutomatic (s : HouseSettings) (entityId : String) : Bool :=
  !s.excludedPatterns.any fun pattern => containsText pattern.toList entityId.toList

def toJson (s : HouseSettings) : Json :=
  .obj [
    ("excluded_patterns", .strings s.excludedPatterns),
    ("on_transition", .ofOption .ofFloat s.onTransition),
    ("off_transition", .ofOption .ofFloat s.offTransition),
    ("default_brightness", .ofNat s.defaultBrightness.toNat),
    ("default_temperature", .ofNat s.defaultTemperature.toNat),
    ("close_enough", .ofNat s.closeEnough.toNat),
    ("cancel_timers_on_night_mode", .bool s.cancelTimersOnNightMode),
    ("repush_on_ready", .bool s.repushOnReady)]

def ofJson? (j : Json) : Option HouseSettings := do
  let [excluded, onTransition, offTransition, brightness, temperature, closeEnough, cancelTimers,
      repush] ←
    j.slots? ["excluded_patterns", "on_transition", "off_transition", "default_brightness",
      "default_temperature", "close_enough", "cancel_timers_on_night_mode", "repush_on_ready"]
    | none
  let seconds? := Json.nullable? Json.float?
  return {
    excludedPatterns := ← excluded.withDefault default.excludedPatterns Json.strings?
    onTransition := ← onTransition.withDefault default.onTransition seconds?
    offTransition := ← offTransition.withDefault default.offTransition seconds?
    defaultBrightness := ← brightness.withDefault default.defaultBrightness Json.uint8?
    defaultTemperature := ← temperature.withDefault default.defaultTemperature Json.uint16?
    closeEnough := ← closeEnough.withDefault default.closeEnough Json.uint16?
    cancelTimersOnNightMode := ←
      cancelTimers.withDefault default.cancelTimersOnNightMode Json.bool?
    repushOnReady := ← repush.withDefault default.repushOnReady Json.bool? }

end HouseSettings

structure Settings where
  bridge : BridgeSettings
  sync : SyncSettings
  house : HouseSettings
deriving DecidableEq

namespace Settings

def default : Settings := ⟨.default, .default, .default⟩

instance : Inhabited Settings := ⟨default⟩

def toJson (s : Settings) : Json :=
  .obj [("bridge", s.bridge.toJson), ("engine", s.sync.toJson), ("adapter", s.house.toJson)]

def ofJson? (j : Json) : Option Settings := do
  let [bridge, sync, house] ← j.slots? ["bridge", "engine", "adapter"] | none
  return {
    bridge := ← bridge.withDefault .default BridgeSettings.ofJson?
    sync := ← sync.withDefault .default SyncSettings.ofJson?
    house := ← house.withDefault .default HouseSettings.ofJson? }

def ofText? (text : String) : Option Settings := Json.decodeText? ofJson? text

end Settings
end LightSync
