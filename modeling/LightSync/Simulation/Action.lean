import LightSync.Simulation.Site

/-!
# Actions at a site

Everything that can be done at a site, and what it gives back. After an action everything that is
due runs before the site is looked at.

## Main definitions

- `Action`, `Result`
- `Site.perform`: carries out an action
- `sortCancellations`: the order in which cancelled timers are reported
-/

namespace LightSync.Simulation

open Bridge Household Reconciler

/-- Something done at a site. -/
inductive Action where
  | nothing
  | sleep (ms : Nat)
  | change (c : Change)
  /-- Changes made where no loop can run. -/
  | outside (changes : List Change)
  | step
  | drain
  | waitIdle
  | applyDirect (lights : NameSet) (command : Command)
  | light (uniqueId : String)
  | numberOfId (uniqueId : String)
  | lightsOfId (uniqueId : String)
  | lightsOfName (name : String)
  | groupLights (name : String)
  | group (kind : GroupKind)
  | groups
  | lights
  | entries
  | lastReply (path : String)
  | settings
  | listen (changes : List Change)
  | queueReply (method : Method) (path : String) (reply : ScriptedReply)
  | fixReply (method : Method) (path : String) (reply : Option ScriptedReply)
  | setUnreachable (path : String) (value : Bool)
  | turnOn (entityId : String) (params : LightParams)
  | turnOff (entityId : String) (params : LightParams)
  | autoOn (call : ServiceCall LightParams)
  | motionOn (call : ServiceCall LightParams)
  | dim (call : ServiceCall DimParams)
  | brightnessChanged (value : Float)
  | temperatureChanged (value : Float)
  | nightModeChanged (enabled : Bool)
  | entityAdded (e : Entity)
  | entityRemoved (e : Entity)
  | lightsOf (e : Entity)
  | pushDesired
  | cancelTimer (entityId : String)
  | cancelAllTimers
  /-- Nobody attends to the household any longer. -/
  | leave
  | insertEntity (e : Entity)
  | removeEntity (entityId : String)
  | failCalls (entityId : String) (message : Option String)

/-- What an action gives back. -/
inductive Result where
  | nothing
  | failed (failure : Failure)
  | flag (value : Bool)
  | count (n : Nat)
  | outcome (o : Outcome)
  | outcomes (os : List Outcome)
  | name (name : Option String)
  | names (names : Option NameSet)
  | light (l : Option Light)
  | lights (ls : List Light)
  | group (g : Option Group)
  | groups (gs : List Group)
  | entry (e : Option Entry)
  | entries (es : List Entry)
  | settings (s : SyncSettings)

def Result.ofExcept : Except Failure Unit → Result
  | .ok () => .nothing
  | .error failure => .failed failure

/-- Puts a line before the first one with a greater text. -/
def insertLine (line : Line) : List Line → List Line
  | [] => [line]
  | l :: rest => if l.text < line.text then l :: insertLine line rest else line :: l :: rest

/-- Timers that are cancelled together have no order: neighbouring lines that report cancelled
timers are sorted. -/
def sortCancellations (lines : List Line) : List Line :=
  let isCancellation (l : Line) : Bool :=
    (OffTimers.cancelLine "").text.toList.isPrefixOf l.text.toList
  let (run, done) := lines.foldr (fun l (run, done) =>
    if isCancellation l then (insertLine l run, done) else ([], l :: (run ++ done)))
    (([] : List Line), ([] : List Line))
  run ++ done

namespace Site

/-- A site with a reconciler alone. -/
def new (settings : SyncSettings) (wording : Wording) (bridge : ScriptedBridge)
    (entities : List Entity) : Site :=
  ⟨0, .new .default (.ofEntities entities) (.new settings wording), false, .nobody, bridge, [], #[]⟩

/-- A site with a household that is attended to. -/
def attend (s : Site) (settings : HouseSettings) : Site :=
  { s with
    home := .new settings s.home.host s.sync
    attended := true
    listener := if settings.repushOnReady then .household else .nobody }

/-- Applies an operation of the household that gives something back. -/
def withHome (s : Site) (f : Household ScriptedHost → Household ScriptedHost × β) : Site × β :=
  let (home, b) := f s.home
  ({ s with home }.collectCalls, b)

/-- Applies an operation of the reconciler that gives something back. -/
def lookup (s : Site) (f : Reconciler → Reconciler × β) : Site × β :=
  let (r, b) := f s.sync
  (s.withSync r, b)

def onHost (s : Site) (f : ScriptedHost → ScriptedHost) : Site :=
  { s with home := { s.home with host := f s.home.host } }

/-- Carries out an action up to its end in the foreground. -/
def act (s : Site) : Action → Site × Result
  | .nothing => (s, .nothing)
  | .sleep ms => (s.pause ms, .nothing)
  | .change c => (s.changeAll true [c], .nothing)
  | .outside changes => (s.changeAll false changes, .nothing)
  | .step => (Environment.step s).map id .outcome
  | .drain => (Environment.drain s).map id .outcomes
  | .waitIdle => s.untilIdle.map id .count
  | .applyDirect lights command => (Environment.sendDirect s lights command).map id .ofExcept
  | .light uniqueId => (s, .light (s.sync.state.light? uniqueId))
  | .numberOfId uniqueId => (s, .name (s.sync.state.numberOfId? uniqueId))
  | .lightsOfId uniqueId => (s.lookup (·.lightsOfId uniqueId)).map id .names
  | .lightsOfName name => (s.lookup (·.lightsOfName name)).map id .names
  | .groupLights name => (s, .names (s.sync.state.groupLights? name))
  | .group kind => (s, .group (s.sync.state.group? kind))
  | .groups => (s, .groups s.sync.state.allGroups)
  | .lights => (s, .lights s.sync.state.allLights)
  | .entries => (s, .entries s.sync.log.entries)
  | .lastReply path => (s, .entry (s.sync.log.lastReply path))
  | .settings => (s, .settings s.sync.settings)
  | .listen changes => ({ s with listener := .script changes }, .nothing)
  | .queueReply method path reply =>
    ({ s with bridge := s.bridge.enqueue (method, path) reply }, .nothing)
  | .fixReply method path reply =>
    ({ s with bridge := s.bridge.fix (method, path) reply }, .nothing)
  | .setUnreachable path value =>
    ({ s with bridge := s.bridge.setUnreachable path value }, .nothing)
  | .turnOn entityId params => (s.withHome (·.turnOn entityId params)).map id .ofExcept
  | .turnOff entityId params => (s.withHome (·.turnOff entityId params)).map id .ofExcept
  | .autoOn call => (s.withHome (·.autoOn call)).map id .ofExcept
  | .motionOn call => (Household.motionOn Site.home s call).map id .ofExcept
  | .dim call => (s.withHome (·.dim s.now call)).map id .ofExcept
  | .brightnessChanged value => (s.onHome (·.brightnessChanged value), .nothing)
  | .temperatureChanged value => (s.onHome (·.temperatureChanged value), .nothing)
  | .nightModeChanged enabled => (s.onHome (·.nightModeChanged enabled), .nothing)
  | .entityAdded e => (s.onHome (·.entityAdded e), .nothing)
  | .entityRemoved e => (s.onHome (·.entityRemoved e), .nothing)
  | .lightsOf e => (s.withHome (·.lightsOf e)).map id .names
  | .pushDesired => (s.onHome (·.pushDesired), .nothing)
  | .cancelTimer entityId => (s.withHome (·.cancelTimer entityId)).map id .flag
  | .cancelAllTimers => (s.withHome (·.cancelTimers)).map id .count
  | .leave => ({ s with attended := false }, .nothing)
  | .insertEntity e => (s.onHost (·.insert e), .nothing)
  | .removeEntity entityId =>
    (s.onHost (·.remove entityId), .flag (s.home.host.knows entityId))
  | .failCalls entityId message => (s.onHost (·.setFailing entityId message), .nothing)

/-- Carries out an action, or refuses one that could not be read; then everything due runs. -/
def perform (s : Site) (action : Except Failure Action) : Site × Result :=
  let (s, result) := match action with
    | .ok action => s.act action
    | .error failure => (s, .failed failure)
  (s.settle, result)

/-- Forgets what was recorded, to record anew. -/
def forget (s : Site) : Site := { s.withSync { s.sync with journal := #[] } with events := #[] }

end Site
end LightSync.Simulation
