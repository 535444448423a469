import Infiltration.Tick.Phase

/-!
Devices that act by the clock: cameras that come back after a timed pause, and drones on patrol.
-/

namespace Infiltration

/-- A camera that was paused until this tick or an earlier one comes back. -/
def Device.wake (tick : UInt64) (device : Device) : Device × List Occurrence :=
  match device.equipment with
  | .camera camera =>
    match device.enabled, camera.disabledUntil with
    | false, some deadline =>
      if deadline ≤ tick then
        ({ device with enabled := true, equipment := .camera { camera with disabledUntil := none } },
          [.cameraEnabled none device.id])
      else (device, [])
    | _, _ => (device, [])
  | _ => (device, [])

/-- The place on the path that comes after a drone's, and after the last one the first. A place that the
path does not have is counted on in a word of 64 bits, which may start over. -/
def Drone.nextIndex (drone : Drone) : Nat :=
  if drone.pathIndex < drone.path.length then (drone.pathIndex + 1) % drone.path.length
  else (drone.pathIndex + 1) % UInt64.size % drone.path.length

theorem Drone.nextIndex_of_lt {drone : Drone} (h : drone.pathIndex < drone.path.length) :
    drone.nextIndex = (drone.pathIndex + 1) % drone.path.length := if_pos h

example :
    ({ path := [⟨0, 0⟩, ⟨1, 0⟩, ⟨2, 0⟩]
       pathIndex := 18446744073709551615
       stepInterval := 1 } : Drone).nextIndex = 0 := by decide

/-- A drone counts the tick and steps to the next cell of its path when the interval is full. -/
def Device.patrol (device : Device) : Device :=
  match device.equipment with
  | .drone drone =>
    if device.enabled && drone.alive && 2 ≤ drone.path.length then
      if drone.stepTimer + 1 < drone.stepInterval then
        { device with equipment := .drone { drone with stepTimer := drone.stepTimer + 1 } }
      else
        { device with
          position := drone.path.getD drone.nextIndex device.position
          equipment := .drone { drone with stepTimer := 0, pathIndex := drone.nextIndex } }
    else device
  | _ => device

namespace Tick

def wakeCameras : Phase := fun world =>
  let swept := world.devices.sweep (Device.wake world.tick)
  ({ world with devices := swept.1 }, swept.2)

def moveDrones : Phase := fun world =>
  ({ world with devices := world.devices.map Device.patrol }, [])

end Tick

end Infiltration
