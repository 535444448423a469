import Infiltration.Capped
import Infiltration.Tick.Phase

/-!
Script commands carried out on the world. Every command is announced; one that names no device of the
right type has no effect beyond that.
-/

namespace Infiltration

/-- A delay moves the deadline of an alarm that runs toward red, and else waits in the buffer. -/
def Alarm.delay (alarm : Alarm) (ticks : UInt64) : Alarm :=
  match alarm.level, alarm.redAt with
  | .yellow, some deadline => { alarm with redAt := some (Capped.add64 deadline ticks) }
  | _, _ => { alarm with delayBuffer := Capped.add64 alarm.delayBuffer ticks }

/-- A retargeted turret lets go of the target it holds. -/
def Turret.retarget (turret : Turret) (target : String) : Turret :=
  { turret with desiredTarget := some target, currentTarget := none, lockTicks := 0 }

namespace World

def setEquipment (world : World) (key : String) (equipment : Equipment) : World :=
  world.modifyDevice key fun device => { device with equipment }

/-- The effect of a command from a script line. -/
def perform (world : World) (line : UInt32) : Script.Command → World × List Occurrence
  | .disableCamera key duration =>
    match world.devices.part? key Device.camera? with
    | some camera =>
      let disabledUntil := duration.map (Capped.add64 world.tick)
      (world.modifyDevice key fun device =>
          { device with enabled := false, equipment := .camera { camera with disabledUntil } },
        [.cameraDisabled line key duration])
    | none => (world, [])
  | .enableCamera key =>
    match world.devices.part? key Device.camera? with
    | some camera =>
      (world.modifyDevice key fun device =>
          { device with enabled := true, equipment := .camera { camera with disabledUntil := none } },
        [.cameraEnabled (some line) key])
    | none => (world, [])
  | .delayAlarm ticks =>
    match world.devices.alarmEntry? with
    | some (key, alarm) =>
      (world.setEquipment key (.alarm (alarm.delay ticks)), [.alarmDelayed line ticks])
    | none => (world, [])
  | .openDoor key =>
    match world.devices.part? key Device.door? with
    | some door => (world.setEquipment key (.door { door with isOpen := true }), [.doorOpened line key])
    | none => (world, [])
  | .closeDoor key =>
    match world.devices.part? key Device.door? with
    | some door => (world.setEquipment key (.door { door with isOpen := false }), [.doorClosed line key])
    | none => (world, [])
  | .retargetTurret key target =>
    match world.devices.part? key Device.turret? with
    | some turret =>
      (world.setEquipment key (.turret (turret.retarget target)), [.turretRetargeted line key target])
    | none => (world, [])
  | .tagDevice key tag =>
    match world.devices.find? key with
    | some _ =>
      (world.modifyDevice key fun device => { device with tag := some tag }, [.deviceTagged line key tag])
    | none => (world, [])
  | .log message => (world, [.logged line message])
  | .wait _ => (world, [])

end World

namespace Tick

/-- A command is announced and then carried out. -/
def runCue (cue : Script.Cue) : Phase := fun world =>
  let done := world.perform cue.line cue.command
  (done.1, .lineExecuted cue.line cue.command :: done.2)

/-- The cues of one tick, in their order. -/
def runCues (cues : List Script.Cue) : Phase := inOrder (cues.map runCue)

end Tick

end Infiltration
