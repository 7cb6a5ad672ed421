import LightSync.Household.Host
import LightSync.Household.OffTimers
import LightSync.Household.Tracking
import LightSync.Quantity.Brightness
import LightSync.Reconciler.Diagnostics

/-!
# The household

The household stands between the home platform and the reconciler. It knows the desired brightness
and color temperature, completes commands with them, decides which lights follow them, forwards
commands to the platform, and turns what the platform reports into changes for the reconciler.

## Main definitions

- `Desired`, `Household`
- `turnOn`, `turnOff`, `autoOn`, `dim`: commands
- `brightnessChanged`, `temperatureChanged`, `nightModeChanged`, `entityAdded`, `entityRemoved`:
  reports of the platform
- `pushDesired`: everything desired, after the managed groups were loaded
- `expireTimer`: a timer has run out
-/

namespace LightSync

open Reconciler (Change)
open Bridge (GroupKind)

namespace Household

/-- What the platform wants of lights that nobody set otherwise. -/
structure Desired where
  brightness : UInt8
  temperature : UInt16
  nightMode : Bool
deriving DecidableEq, Repr

/-- A desired brightness: an integer clamped into 3 to 255. -/
def clampDesired (value : Int) : UInt8 := .ofNat (Decimal.clampInt 3 255 value).toNat

def Desired.initial (settings : HouseSettings) : Desired :=
  ⟨clampDesired settings.defaultBrightness.toNat,
    (ColorTemp.clamped settings.defaultTemperature.toNat).mirek, false⟩

end Household

open Household

/-- A reconciler, a home platform of type `σ`, and what connects them. The job of a timer is the
fade with which it turns its light off. -/
structure Household (σ : Type) where
  settings : HouseSettings
  desired : Desired
  timers : OffTimers (Option Fade)
  host : σ
  sync : Reconciler

namespace Household

variable {σ : Type}

/-- A household without timers that wants the defaults. -/
def new (settings : HouseSettings) (host : σ) (sync : Reconciler) : Household σ :=
  ⟨settings, .initial settings, .empty, host, sync⟩

def note (h : Household σ) (line : Line) : Household σ := { h with sync := h.sync.note line }

def noteAll (h : Household σ) (lines : List Line) : Household σ :=
  { h with sync := h.sync.noteAll lines }

def change (h : Household σ) (c : Change) : Household σ := { h with sync := h.sync.change true c }

/-- Does a reported value follow the desired one? -/
def closeEnough (h : Household σ) (actual : Option Int) (desired : Int) : Bool :=
  match actual with
  | some actual => (actual - desired).natAbs < h.settings.closeEnough.toNat
  | none => false

/-- The numbers of the lights behind an entity. -/
def lightsOf (h : Household σ) (e : Entity) : Household σ × Option NameSet :=
  if e.isBridgeGroup then (h, h.sync.state.groupLights? e.name)
  else match e.uniqueId with
    | some uniqueId =>
      let (sync, lights) := h.sync.lightsOfId uniqueId
      ({ h with sync }, lights)
    | none => (h, none)

/-- Starts or ends tracking of lights in one managed group. -/
def track (h : Household σ) (kind : GroupKind) (tracking : Tracking) (lights : NameSet) :
    Household σ :=
  match tracking with
  | .start => h.change (.addLights kind lights.toList)
  | .stop => h.change (.removeLights kind lights.toList)
  | .keep => h

/-- Does what a decision says about tracking; nothing for an entity without known lights. -/
def applyTracking (h : Household σ) (lights : Option NameSet) (d : Decision) : Household σ :=
  match lights with
  | some lights => (h.track .brightness d.brightness lights).track .temperature d.colorTemp lights
  | none => h

/-! ## Reports of the home platform -/

/-- The desired brightness changed. In night mode the reconciler is not told. -/
def brightnessChanged (h : Household σ) (value : Float) : Household σ :=
  let brightness := clampDesired (Decimal.clampTruncated 3 255 value)
  let h := { h with desired := { h.desired with brightness } }
  if h.desired.nightMode then h else h.change (.setBrightness brightness)

/-- The desired color temperature changed. In night mode the reconciler is not told. -/
def temperatureChanged (h : Household σ) (value : Float) : Household σ :=
  let temperature := (ColorTemp.clamped (Decimal.clampTruncated 153 454 value)).mirek
  let h := { h with desired := { h.desired with temperature } }
  if h.desired.nightMode then h else h.change (.setTemperature temperature)

def cancelTimers (h : Household σ) : Household σ × Nat :=
  let h := h.noteAll h.timers.cancelAllLines
  let (timers, count) := h.timers.cancelAll
  ({ h with timers }, count)

def cancelTimer (h : Household σ) (entityId : String) : Household σ × Bool :=
  let h := h.noteAll (h.timers.cancelLines entityId)
  let (timers, found) := h.timers.cancel entityId
  ({ h with timers }, found)

def nightModeChanged (h : Household σ) (enabled : Bool) : Household σ :=
  let h := { h with desired := { h.desired with nightMode := enabled } }
  if enabled && h.settings.cancelTimersOnNightMode then
    let (h, count) := h.cancelTimers
    h.note (.info s!"Night mode on; cancelled {count} timers")
  else h

/-- May an entity be tracked by itself: is it a single light that is on and not excluded? -/
def isTrackable (h : Household σ) (e : Entity) : Bool :=
  e.isOn && !e.isBridgeGroup && h.settings.isAutomatic e.entityId

/-- Does the entity follow the desired brightness? -/
def followsBrightness (h : Household σ) (e : Entity) : Bool :=
  h.closeEnough (e.brightness.map (·.toNat)) h.desired.brightness.toNat

/-- Does the entity follow the desired color temperature? -/
def followsTemperature (h : Household σ) (e : Entity) : Bool :=
  h.closeEnough (e.colorTemp.map (·.toNat)) h.desired.temperature.toNat

def entityAdded (h : Household σ) (e : Entity) : Household σ :=
  match h.isTrackable e, e.uniqueId with
  | true, some uniqueId =>
    match h.sync.lightsOfId uniqueId with
    | (sync, none) => { h with sync }
    | (sync, some lights) =>
      let h := { h with sync }
      let track (kind : GroupKind) (follows : Bool) (h : Household σ) : Household σ :=
        if follows then h.change (.addLights kind lights.toList) else h
      track .temperature (h.followsTemperature e) (track .brightness (h.followsBrightness e) h)
  | _, _ => h

def entityRemoved (h : Household σ) (e : Entity) : Household σ :=
  match h.lightsOf e with
  | (h, none) => h
  | (h, some lights) =>
    ((h.note (.info s!"Remove light: {e.entityId}")).change
      (.removeLights .brightness lights.toList)).change (.removeLights .temperature lights.toList)

/-! ## Pushing everything desired -/

variable [Host σ]

/-- The numbers of the lights of those trackable entities that fulfil a condition. -/
def followers (h : Household σ) (follows : Entity → Bool) : NameSet :=
  .ofList ((Host.entities h.host).filterMap fun e =>
    if h.isTrackable e && follows e then e.uniqueId.bind h.sync.state.numberOfId? else none)

/-- Sets both memberships to the lights that follow the desired values, then the values. -/
def pushDesired (h : Household σ) : Household σ :=
  let brightness := h.followers h.followsBrightness
  let temperature := h.followers h.followsTemperature
  let line := Line.info <|
    s!"Bridge ready; tracking brightness {brightness.display} temperature {temperature.display}"
  let h := h.note line
  { h with
    sync := h.sync.changeAll true [
      .setLights .brightness brightness,
      .setLights .temperature temperature,
      .setBrightness h.desired.brightness,
      .setTemperature h.desired.temperature] }

/-! ## Commands -/

def perform (h : Household σ) (call : HostCall) : Household σ × Except Failure Unit :=
  let (host, result) := Host.perform h.host call
  ({ h with host }, result)

/-- The parameters of a turn-on command, completed as a decision says. -/
def complete (h : Household σ) (params : LightParams) (d : Decision) : LightParams :=
  { brightness := if d.fillBrightness then some h.desired.brightness else params.brightness
    colorTemp := if d.fillColorTemp then some h.desired.temperature else params.colorTemp
    transition :=
      if d.defaultTransition then params.transition.or h.settings.onFade else params.transition }

/-- Lights of an entity as a report line shows them. -/
def describeLights : Option NameSet → String := LightParams.describeOption NameSet.display

/-- Completes the turn-on command of an entity with the desired values, and does what it decides
about tracking. -/
def automate (h : Household σ) (entityId : String) (e : Entity) (params : LightParams) :
    Household σ × LightParams :=
  let (h, lights) := h.lightsOf e
  let h := h.note (.info s!"ON COMMAND FOR {entityId} -> {describeLights lights}")
  let d := Decision.onTurnOn e.isOn params
  (h.applyTracking lights d, h.complete params d)

/-- Turns an entity on. Unless it is excluded, the command is completed with the desired values and
decides about tracking. A command with a brightness ends a pending turn-off. -/
def turnOn (h : Household σ) (entityId : String) (params : LightParams) :
    Household σ × Except Failure Unit :=
  match Host.entity? h.host entityId with
  | none => (h, .error (.unknownEntity entityId))
  | some e =>
    let (h, params) :=
      if h.settings.isAutomatic entityId then h.automate entityId e params else (h, params)
    let h := if params.brightness.isSome then (h.cancelTimer entityId).1 else h
    h.perform (.turnOn entityId params)

/-- Turns an entity off and ends its tracking. -/
def turnOff (h : Household σ) (entityId : String) (params : LightParams) :
    Household σ × Except Failure Unit :=
  match Host.entity? h.host entityId with
  | none => (h, .error (.unknownEntity entityId))
  | some e =>
    let d := Decision.onTurnOff
    let (h, lights) := h.lightsOf e
    let h := h.applyTracking lights d
    let transition :=
      if h.settings.isAutomatic entityId && d.defaultTransition then
        params.transition.or h.settings.offFade
      else params.transition
    let params := { params with transition }
    (h.note (.info s!"OFF {entityId} {params.describe}")).perform (.turnOff entityId params)

/-- Turns entities on one after the other, up to the first failure. -/
def turnOnAll (h : Household σ) (params : LightParams) :
    List String → Household σ × Except Failure Unit
  | [] => (h, .ok ())
  | entityId :: rest =>
    match h.turnOn entityId params with
    | (h, .ok ()) => h.turnOnAll params rest
    | (h, .error failure) => (h, .error failure)

def autoOn (h : Household σ) (call : ServiceCall LightParams) : Household σ × Except Failure Unit :=
  h.turnOnAll call.params call.entityIds

/-- Milliseconds after which a wait of some nanoseconds is over: it ends on a whole one. -/
def wholeMs (nanoseconds : Nat) : Nat := (nanoseconds + 999999) / 1000000

/-- A wait of some nanoseconds in seconds. -/
def waitSeconds (nanoseconds : Nat) : Float :=
  (nanoseconds / 1000000000).toUInt64.toFloat +
    (nanoseconds % 1000000000).toUInt64.toFloat / 1000000000.0

/-- Starts the timer that turns an entity off. -/
def startTimer (h : Household σ) (now : Nat) (entityId : String) (delay : Fade)
    (fade : Option Fade) : Household σ :=
  let tenths := Decimal.writeTenths (waitSeconds delay.nanoseconds)
  let h := h.noteAll (h.timers.startLines entityId tenths)
  let (sync, id) := h.sync.takeTicket
  { h with
    sync
    timers := h.timers.start ⟨id, entityId, now + wholeMs delay.nanoseconds, fade⟩ }

/-- Dims entities one after the other, up to the first failure; those that are unknown or off are
skipped. -/
def dimAll (h : Household σ) (now : Nat) (brightness : UInt8) (params : DimParams)
    (temperature : UInt16) : List String → Household σ × Except Failure Unit
  | [] => (h, .ok ())
  | entityId :: rest =>
    match Host.entity? h.host entityId with
    | none =>
      (h.note (.warn s!"Unknown entity {entityId}")).dimAll now brightness params temperature rest
    | some e =>
      if e.isOn then
        let light : LightParams :=
          ⟨some brightness, some (params.colorTemp.getD temperature), params.dimTransition⟩
        match h.turnOn entityId light with
        | (h, .error failure) => (h, .error failure)
        | (h, .ok ()) =>
          let h := match params.offAfter with
            | some delay => h.startTimer now entityId delay params.offTransition
            | none => h
          h.dimAll now brightness params temperature rest
      else h.dimAll now brightness params temperature rest

/-- The service that dims lights that are on to a quarter of the desired brightness, and may turn
them off later. -/
def dim (h : Household σ) (now : Nat) (call : ServiceCall DimParams) :
    Household σ × Except Failure Unit :=
  h.dimAll now (clampDesired (h.desired.brightness.toNat / 4 : Nat)) call.params
    h.desired.temperature call.entityIds

/-- The command of the service that answers to motion: the desired values, where the call gives no
others. -/
def motionCommand (h : Household σ) (params : LightParams) : Bridge.Command :=
  let brightness := Brightness.clamped (params.brightness.getD h.desired.brightness).toNat
  let temperature := ColorTemp.clamped (params.colorTemp.getD h.desired.temperature).toNat
  let command := (Bridge.Command.empty.withBrightness brightness).withColorTemp temperature
  match params.transition with
  | some fade => command.withFade fade
  | none => command

/-- A timer has run out. If it is still the current one of its entity, the entity is turned off,
provided that somebody still attends to the household. -/
def expireTimer (h : Household σ) (attended : Bool) (entityId : String) (id : Nat) : Household σ :=
  match h.timers.expire entityId id with
  | (_, none) => h
  | (timers, some fade) =>
    let h := { h with timers }.note (OffTimers.fireLine entityId)
    if attended then
      match h.turnOff entityId { LightParams.none with transition := fade } with
      | (h, .ok ()) => h
      | (h, .error failure) =>
        h.note (.warn s!"Timed turn-off of {entityId} failed: {failure.message h.sync.wording}")
    else h

end Household
end LightSync
