import Infiltration.Tick.Commands

/-!
Turrets. A turret that may engage takes the drone it was told to take, if that drone is up and in range,
and else the player in range; it holds the target and fires when it has held it long enough.
-/

namespace Infiltration

inductive Target where
  | player
  | drone (id : String)
  deriving DecidableEq, Repr

/-- The name under which a target stands in the log. -/
def Target.id : Target → String
  | player => "player"
  | drone id => id

/-- Whether a device is a drone that a turret can still take. -/
def Device.upDrone (device : Device) : Bool :=
  device.enabled && device.drone?.any Drone.alive

/-- The drone that a turret at a place was told to take, if it can be taken from there. -/
def Roster.desiredDrone? (devices : Roster) (place : Point) (turret : Turret) : Option String :=
  match turret.desiredTarget.bind devices.find? with
  | some device =>
    if device.upDrone && place.distance device.position ≤ turret.range.toNat then some device.id else none
  | none => none

/-- Whether the player is alive and in range of a turret at a place. -/
def Player.inRange (player : Player) (place : Point) (turret : Turret) : Bool :=
  player.alive && place.distance player.position ≤ turret.range.toNat

namespace World

/-- What a turret at a place takes as its target. -/
def target? (world : World) (place : Point) (turret : Turret) : Option Target :=
  match world.devices.desiredDrone? place turret with
  | some id => some (.drone id)
  | none => if world.player.inRange place turret then some .player else none

/-- A shot kills the player or destroys the drone. One that is down already is left alone. -/
def shoot (world : World) (turret : String) : Target → World × List Occurrence
  | .player =>
    if world.player.alive then
      ({ world with player := { world.player with alive := false } }, [.playerKilled turret])
    else (world, [])
  | .drone key =>
    match world.devices.part? key Device.drone? with
    | some drone =>
      if drone.alive then
        (world.modifyDevice key fun device =>
            { device with enabled := false, equipment := .drone { drone with alive := false } },
          [.droneDestroyed key turret])
      else (world, [])
    | none => (world, [])

end World

namespace Turret

/-- No target: the turret starts over. -/
def release (turret : Turret) : Turret := { turret with currentTarget := none, lockTicks := 0 }

/-- One more tick on a target, or the first one if it is new. -/
def track (turret : Turret) (target : String) : Turret :=
  if turret.currentTarget = some target then { turret with lockTicks := turret.lockTicks + 1 }
  else { turret with currentTarget := some target, lockTicks := 1 }

/-- Taking a new target is announced. -/
def announceLock (turret : Turret) (id target : String) : List Occurrence :=
  if turret.currentTarget = some target then [] else [.targetLocked id target]

/-- Whether a turret may engage. -/
def active (turret : Turret) (alarmRed : Bool) : Bool := turret.trigger = .always || alarmRed

end Turret

namespace Tick

/-- A turret holds a target and fires if it has held it long enough. -/
def engage (key : String) (turret : Turret) (target : Target) : Phase := fun world =>
  let tracked := turret.track target.id
  let lock := turret.announceLock key target.id
  if tracked.lockTicks < turret.lockDelay then (world.setEquipment key (.turret tracked), lock)
  else
    let shot := (world.setEquipment key (.turret { tracked with lockTicks := 0 })).shoot key target
    (shot.1, lock ++ .turretFired key target.id :: shot.2)

/-- The turn of the device under a key, which passes if it is no turret or switched off. -/
def turretTurn (alarmRed : Bool) (key : String) : Phase := fun world =>
  match world.devices.find? key with
  | some device =>
    match device.enabled, device.turret? with
    | true, some turret =>
      let target := if turret.active alarmRed then world.target? device.position turret else none
      match target with
      | some target => engage key turret target world
      | none => (world.setEquipment key (.turret turret.release), [])
    | _, _ => (world, [])
  | none => (world, [])

/-- All turrets in their order. Whether the alarm is red is settled before the first. -/
def runTurrets : Phase := fun world =>
  inOrder (world.devices.keys.map (turretTurn (world.alarmLevel = .red))) world

end Tick

end Infiltration
