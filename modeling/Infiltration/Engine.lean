import Infiltration.Replay.Frame
import Infiltration.Tick.Commands
import Infiltration.Tick.Patrol
import Infiltration.Tick.Surveillance
import Infiltration.Tick.Turrets
import Infiltration.Tick.Walk

/-!
A run in progress. The engine plays one tick after the other and records a frame of each; it stops when
the player is out, dead or out of time. Stepping and running to the end are the same thing done once or
many times.
-/

namespace Infiltration

structure Config where
  ceiling : UInt64 := defaultCeiling
  storeDigests : Bool := true
  deriving DecidableEq, Repr

/-- What stays the same during a run. -/
structure Mission where
  level : Level
  cues : List Script.Cue
  limit : UInt64
  storeDigests : Bool
  deriving DecidableEq, Repr

namespace Mission

def of (level : Level) (cues : List Script.Cue) (config : Config) : Mission where
  level := level
  cues := cues
  limit := level.constraints.limitUnder config.ceiling
  storeDigests := config.storeDigests

/-- The cues of a tick, in their order. -/
def cuesAt (mission : Mission) (tick : UInt64) : List Script.Cue :=
  mission.cues.filter fun cue => cue.tick = tick

/-- The phases before the cameras look: commands, cameras that come back, drones. -/
def opening (mission : Mission) : Tick.Phase := fun world =>
  Tick.inOrder [Tick.runCues (mission.cuesAt world.tick), Tick.wakeCameras, Tick.moveDrones] world

/-- The phases from the cameras on, of which some were watching the player already. -/
def closing (mission : Mission) (watching : List String) : Tick.Phase :=
  Tick.inOrder [Tick.reportSightings watching, Tick.escalate, Tick.runTurrets, Tick.walk mission.level,
    Tick.timeOut mission.limit]

/-- How a tick leaves the run. -/
def verdict (mission : Mission) (world : World) : Outcome :=
  if world.player.reachedExit then .success
  else if !world.player.alive || mission.limit ≤ world.tick then .failure
  else .running

/-- A run that is not decided goes on to the next tick. -/
def settle (mission : Mission) (world : World) : World :=
  match mission.verdict world with
  | .running => { world with tick := world.tick + 1 }
  | outcome => { world with outcome }

/-- The record of a tick that has been played. -/
def frame (mission : Mission) (world : World) (events : List Event) : Frame :=
  let snapshot := Snapshot.ofWorld world
  { tick := world.tick
    snapshot
    events
    executedLines := (mission.cuesAt world.tick).map Script.Cue.line
    storedDigest := if mission.storeDigests then some snapshot.digest else none }

end Mission

structure Engine where
  mission : Mission
  world : World
  /-- The cameras that saw the player on the last tick. -/
  watching : List String
  /-- How many events the run has so far. -/
  entered : Nat
  /-- The events, newest first. -/
  logged : List Event
  /-- The frames, newest first. -/
  recorded : List Frame
  deriving DecidableEq, Repr

namespace Engine

def start (mission : Mission) : Engine where
  mission := mission
  world := World.start mission.level
  watching := []
  entered := 0
  logged := []
  recorded := []

def finished (engine : Engine) : Bool := engine.world.decided

def frames (engine : Engine) : List Frame := engine.recorded.reverse

def log (engine : Engine) : Log := engine.logged.reverse

/-- Play the tick that the world stands at. -/
def play (engine : Engine) : Engine :=
  let mission := engine.mission
  let opened := mission.opening engine.world
  let closed := mission.closing engine.watching opened.1
  let occurrences := opened.2 ++ closed.2
  let events := enterFrom engine.entered engine.world.tick occurrences
  { mission
    world := mission.settle closed.1
    watching := opened.1.sightings
    entered := engine.entered + occurrences.length
    logged := events.reverse ++ engine.logged
    recorded := mission.frame closed.1 events :: engine.recorded }

/-- Play one tick, unless the run is over. -/
def step (engine : Engine) : Engine :=
  if engine.finished then engine else engine.play

def runFor : Nat → Engine → Engine
  | 0, engine => engine
  | ticks + 1, engine => if engine.finished then engine else runFor ticks engine.play

theorem step_of_finished {engine : Engine} (h : engine.finished = true) : engine.step = engine := by
  simp [step, h]

theorem step_of_not_finished {engine : Engine} (h : engine.finished = false) :
    engine.step = engine.play := by
  simp [step, h]

theorem runFor_of_finished {engine : Engine} (h : engine.finished = true) (ticks : Nat) :
    runFor ticks engine = engine := by
  cases ticks with
  | zero => rfl
  | succ ticks => simp [runFor, h]

/-- Running is stepping as often as allowed. -/
theorem runFor_succ (ticks : Nat) (engine : Engine) :
    runFor (ticks + 1) engine = runFor ticks engine.step := by
  cases h : engine.finished with
  | true => rw [step_of_finished h, runFor_of_finished h, runFor_of_finished h]
  | false => simp [runFor, h, step]

/-- Play to the end. The tick at the limit is the last one that can be played. -/
def run (engine : Engine) : Engine :=
  runFor (engine.mission.limit.toNat + 1 - engine.world.tick.toNat) engine

end Engine

end Infiltration
