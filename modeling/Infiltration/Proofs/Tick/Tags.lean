import Infiltration.Engine
import Infiltration.Proofs.Tick.Orders

/-! # Tags are not read

Take the tags off all devices: every phase of a tick, and every command but the one that writes a tag,
then tells the same as before, and does the same up to tags. -/

namespace Infiltration

/-! ## Devices without tags -/

namespace Device

def untagged (device : Device) : Device := { device with tag := none }

variable (device : Device)

@[simp] theorem id_untagged : device.untagged.id = device.id := rfl

@[simp] theorem position_untagged : device.untagged.position = device.position := rfl

@[simp] theorem enabled_untagged : device.untagged.enabled = device.enabled := rfl

@[simp] theorem equipment_untagged : device.untagged.equipment = device.equipment := rfl

@[simp] theorem type_untagged : device.untagged.type = device.type := rfl

@[simp] theorem camera?_untagged : device.untagged.camera? = device.camera? := rfl

@[simp] theorem turret?_untagged : device.untagged.turret? = device.turret? := rfl

@[simp] theorem drone?_untagged : device.untagged.drone? = device.drone? := rfl

@[simp] theorem door?_untagged : device.untagged.door? = device.door? := rfl

@[simp] theorem alarm?_untagged : device.untagged.alarm? = device.alarm? := rfl

@[simp] theorem sees_untagged (player : Player) :
    device.untagged.sees player = device.sees player := rfl

@[simp] theorem upDrone_untagged : device.untagged.upDrone = device.upDrone := rfl

theorem wake_untagged (tick : UInt64) :
    device.untagged.wake tick = ((device.wake tick).1.untagged, (device.wake tick).2) := by
  cases h : device.equipment with
  | camera camera =>
      simp only [wake, equipment_untagged, enabled_untagged, h]
      split
      · split <;> rfl
      · rfl
  | _ => simp only [wake, equipment_untagged, h]

theorem patrol_untagged : device.untagged.patrol = device.patrol.untagged := by
  cases h : device.equipment with
  | drone drone =>
      simp only [patrol, equipment_untagged, enabled_untagged, position_untagged, h, apply_ite untagged]
      rfl
  | _ => simp only [patrol, equipment_untagged, h]

theorem lockDown_untagged :
    device.untagged.lockDown = (device.lockDown.1.untagged, device.lockDown.2) := by
  cases h : device.equipment with
  | door door =>
      simp only [lockDown, equipment_untagged, h]
      split <;> rfl
  | _ => simp only [lockDown, equipment_untagged, h]

end Device

/-! ## Rosters without tags -/

namespace Roster

def untagged (roster : Roster) : Roster := roster.map Device.untagged

variable (roster : Roster)

@[simp] theorem keys_untagged : roster.untagged.keys = roster.keys := keys_mapEntries _ roster

@[simp] theorem find?_untagged (key : String) :
    roster.untagged.find? key = (roster.find? key).map Device.untagged :=
  find?_mapEntries _ roster key

@[simp] theorem devices_untagged : roster.untagged.devices = roster.devices.map Device.untagged :=
  devices_map _ roster

variable {roster}

theorem part?_untagged {α : Type} {view : Device → Option α}
    (blind : ∀ device : Device, view device.untagged = view device) (key : String) :
    roster.untagged.part? key view = roster.part? key view := by
  simp only [part?, find?_untagged, Option.bind_map, Function.comp_def, blind]

variable (roster)

@[simp] theorem untagged_untagged : roster.untagged.untagged = roster.untagged := by
  apply ext
  simp only [untagged, map, mapEntries, List.map_map]
  rfl

@[simp] theorem alarmEntry?_untagged : roster.untagged.alarmEntry? = roster.alarmEntry? := by
  simp only [ alarmEntry?, untagged, map, mapEntries, List.findSome?_map, Function.comp_def,
    Device.alarm?_untagged]

@[simp] theorem alarmLevel_untagged : roster.untagged.alarmLevel = roster.alarmLevel := by
  simp only [alarmLevel, alarm?, alarmEntry?_untagged]

@[simp] theorem closedDoorAt_untagged (cell : Point) :
    roster.untagged.closedDoorAt cell = (roster.closedDoorAt cell).map Device.untagged := by
  rw [closedDoorAt, closedDoorAt, devices_untagged, List.find?_map]
  rfl

variable {roster}

theorem modify_untagged {change : Device → Device}
    (blind : ∀ device : Device, change device.untagged = (change device).untagged) (key : String) :
    roster.untagged.modify key change = (roster.modify key change).untagged := by
  apply ext
  simp only [untagged, map, modify, mapEntries, List.map_map]
  apply List.map_congr_left
  rintro ⟨other, device⟩ -
  by_cases h : other = key <;> simp [h, blind]

theorem map_untagged {change : Device → Device}
    (blind : ∀ device : Device, change device.untagged = (change device).untagged) :
    roster.untagged.map change = (roster.map change).untagged := by
  apply ext
  simp only [untagged, map, mapEntries, List.map_map, Function.comp_def, blind]

theorem sweep_untagged {visit : Device → Device × List Occurrence}
    (blind : ∀ device : Device, visit device.untagged =
      ((visit device).1.untagged, (visit device).2)) :
    roster.untagged.sweep visit = ((roster.sweep visit).1.untagged, (roster.sweep visit).2) := by
  have hmap : roster.untagged.map (fun device => (visit device).1) =
      (roster.map fun device => (visit device).1).untagged :=
    map_untagged fun device => congrArg Prod.fst (blind device)
  simp only [sweep, hmap, devices_untagged, List.flatMap_map, blind]

end Roster

/-! ## Worlds without tags -/

namespace World

def untagged (world : World) : World := { world with devices := world.devices.untagged }

variable (world : World)

@[simp] theorem tick_untagged : world.untagged.tick = world.tick := rfl

@[simp] theorem player_untagged : world.untagged.player = world.player := rfl

@[simp] theorem outcome_untagged : world.untagged.outcome = world.outcome := rfl

@[simp] theorem devices_untagged : world.untagged.devices = world.devices.untagged := rfl

@[simp] theorem untagged_untagged : world.untagged.untagged = world.untagged := by
  rw [untagged, devices_untagged, Roster.untagged_untagged]
  rfl

@[simp] theorem alarmLevel_untagged : world.untagged.alarmLevel = world.alarmLevel :=
  world.devices.alarmLevel_untagged

@[simp] theorem sightings_untagged : world.untagged.sightings = world.sightings := by
  rw [sightings, sightings, devices_untagged, Roster.devices_untagged, List.filter_map,
    List.map_map]
  rfl

theorem modifyDevice_untagged {change : Device → Device}
    (blind : ∀ device : Device, change device.untagged = (change device).untagged) (key : String) :
    world.untagged.modifyDevice key change = (world.modifyDevice key change).untagged := by
  rw [modifyDevice, devices_untagged, Roster.modify_untagged blind]
  rfl

@[simp] theorem setEquipment_untagged (key : String) (equipment : Equipment) :
    world.untagged.setEquipment key equipment = (world.setEquipment key equipment).untagged := by
  apply modifyDevice_untagged
  intro device
  rfl

end World

/-! ## Commands -/

namespace Script.Command

/-- Commands that no device and no phase takes notice of. -/
def passive : Command → Bool
  | tagDevice _ _ | wait _ | log _ => true
  | _ => false

theorem alter_untagged {command : Command} (active : command.passive = false) (tick : UInt64)
    (device : Device) : command.alter tick device.untagged = (command.alter tick device).untagged := by
  obtain ⟨id, position, enabled, tag, equipment⟩ := device
  cases command with
  | tagDevice => simp [passive] at active
  | wait => rfl
  | log => rfl
  | _ => cases equipment <;> rfl

theorem untagged_alter {command : Command} (passive : command.passive = true) (tick : UInt64)
    (device : Device) : (command.alter tick device).untagged = device.untagged := by
  obtain ⟨id, position, enabled, tag, equipment⟩ := device
  cases command with
  | tagDevice => rfl
  | wait => rfl
  | log => rfl
  | _ => simp [Command.passive] at passive

end Script.Command

namespace World

variable (world : World) {command : Script.Command}

@[simp] theorem bus?_untagged : world.untagged.bus? = world.bus? := by
  rw [bus?, devices_untagged, Roster.alarmEntry?_untagged, bus?]

/-- A passive command changes nothing but tags. -/
theorem untagged_perform (passive : command.passive = true) (line : UInt32) :
    (world.perform line command).1.untagged = world.untagged := by
  cases seat : command.seat? world.bus? with
  | none => rw [perform_of_unseated line seat]
  | some key =>
      have hmodify : (world.modifyDevice key (command.alter world.tick)).untagged = world.untagged := by
        have hhidden : (world.devices.modify key (command.alter world.tick)).untagged =
            world.devices.untagged := by
          apply Roster.ext
          apply Roster.view_modify_of_hidden
          intro device _
          exact Script.Command.untagged_alter passive _ device
        simp only [untagged, modifyDevice, hhidden]
      rw [perform_eq line seat]
      split
      · exact hmodify
      · rfl

end World

/-! ## Phases -/

namespace Tick

/-- A phase that reads no tags: it tells the same without them, and does the same up to them. -/
def TagBlind (phase : Phase) : Prop :=
  ∀ world : World, phase world.untagged = ((phase world).1.untagged, (phase world).2)

theorem tagBlind_inOrder {phases : List Phase} (blind : ∀ phase ∈ phases, TagBlind phase) :
    TagBlind (inOrder phases) := by
  induction phases with
  | nil => exact fun _ => rfl
  | cons phase rest ih =>
      intro world
      have hfirst := blind phase List.mem_cons_self
      have hrest := ih fun other member => blind other (List.mem_cons_of_mem _ member)
      simp only [inOrder_cons, hfirst world, hrest (phase world).1]

theorem tagBlind_perform {command : Script.Command} (active : command.passive = false)
    (line : UInt32) : TagBlind fun world => world.perform line command := by
  intro world
  cases seat : command.seat? world.bus? with
  | none =>
      have seat' : command.seat? world.untagged.bus? = none := by rwa [World.bus?_untagged]
      simp only [World.perform_of_unseated line seat, World.perform_of_unseated line seat']
  | some key =>
      have seat' : command.seat? world.untagged.bus? = some key := by rwa [World.bus?_untagged]
      have hmodify := world.modifyDevice_untagged (Script.Command.alter_untagged active world.tick) key
      simp only [World.perform_eq line seat, World.perform_eq line seat', World.devices_untagged,
        Roster.find?_untagged, Option.any_map, Device.type_untagged,
        World.tick_untagged, hmodify]
      cases (world.devices.find? key).any fun device => command.fits device.type with
      | true => rfl
      | false => rfl

theorem tagBlind_runCue {cue : Script.Cue} (active : cue.command.passive = false) :
    TagBlind (runCue cue) := by
  intro world
  have h : world.untagged.perform cue.line cue.command =
      ((world.perform cue.line cue.command).1.untagged, (world.perform cue.line cue.command).2) :=
    tagBlind_perform active cue.line world
  simp only [runCue, h]

theorem tagBlind_sweep {visit : World → Device → Device × List Occurrence}
    (same : ∀ world : World, visit world.untagged = visit world)
    (blind : ∀ (world : World) (device : Device), visit world device.untagged =
      ((visit world device).1.untagged, (visit world device).2)) :
    TagBlind fun world =>
      ({ world with devices := (world.devices.sweep (visit world)).1 },
        (world.devices.sweep (visit world)).2) := by
  intro world
  simp only [same, World.devices_untagged, Roster.sweep_untagged (blind world)]
  rfl

theorem tagBlind_wakeCameras : TagBlind wakeCameras :=
  tagBlind_sweep (fun _ => rfl) fun world device => device.wake_untagged world.tick

theorem tagBlind_moveDrones : TagBlind moveDrones := by
  intro world
  rw [moveDrones, World.devices_untagged, Roster.map_untagged Device.patrol_untagged]
  rfl

theorem tagBlind_reportSightings (watching : List String) : TagBlind (reportSightings watching) := by
  intro world
  simp only [reportSightings, World.sightings_untagged]

theorem tagBlind_lockDoors : TagBlind lockDoors :=
  tagBlind_sweep (fun _ => rfl) fun _ device => device.lockDown_untagged

theorem tagBlind_turnRed (key : String) (alarm : Alarm) : TagBlind (turnRed key alarm) := by
  intro world
  simp only [turnRed, World.setEquipment_untagged, tagBlind_lockDoors (world.setEquipment _ _)]

theorem tagBlind_escalate : TagBlind escalate := by
  intro world
  simp only [escalate, World.devices_untagged, Roster.alarmEntry?_untagged, World.sightings_untagged,
    World.tick_untagged, World.setEquipment_untagged]
  cases world.devices.alarmEntry? with
  | none => rfl
  | some entry =>
      obtain ⟨key, alarm⟩ := entry
      dsimp only
      generalize (if world.sightings.isEmpty then (alarm, []) else alarm.alert world.tick) = alerted
      simp only [tagBlind_turnRed key alerted.1 world]
      cases alerted.1.due world.tick with
      | true => rfl
      | false => rfl

/-! ### Turrets -/

theorem target?_untagged (world : World) (place : Point) (turret : Turret) :
    world.untagged.target? place turret = world.target? place turret := by
  have hdesired : world.untagged.devices.desiredDrone? place turret =
      world.devices.desiredDrone? place turret := by
    simp only [Roster.desiredDrone?, World.devices_untagged]
    cases turret.desiredTarget with
    | none => rfl
    | some target =>
        simp only [Option.bind_some, Roster.find?_untagged]
        cases world.devices.find? target <;> rfl
  simp only [World.target?, hdesired, World.player_untagged]
  rfl

theorem tagBlind_shoot (turret : String) (target : Target) :
    TagBlind fun world => world.shoot turret target := by
  intro world
  cases target with
  | player =>
      cases alive : world.player.alive with
      | true =>
          simp only [World.shoot, World.player_untagged, alive, if_true]
          rfl
      | false => simp only [World.shoot, World.player_untagged, alive, Bool.false_eq_true, if_false]
  | drone key =>
      have hpart : world.untagged.devices.part? key Device.drone? =
          world.devices.part? key Device.drone? := Roster.part?_untagged (fun _ => rfl) key
      simp only [World.shoot, hpart]
      cases world.devices.part? key Device.drone? with
      | none => rfl
      | some drone =>
          dsimp only
          rw [World.modifyDevice_untagged]
          · cases drone.alive with
            | true => rfl
            | false => rfl
          · intro device
            rfl

theorem tagBlind_engage (key : String) (turret : Turret) (target : Target) :
    TagBlind (engage key turret target) := by
  intro world
  have hshoot (before : World) : before.untagged.shoot key target =
      ((before.shoot key target).1.untagged, (before.shoot key target).2) :=
    tagBlind_shoot key target before
  simp only [engage, World.setEquipment_untagged, hshoot]
  by_cases short : (turret.track target.id).lockTicks < turret.lockDelay
  · simp only [short, if_true]
  · simp only [short, if_false]

theorem tagBlind_turretTurn (alarmRed : Bool) (key : String) : TagBlind (turretTurn alarmRed key) := by
  intro world
  simp only [turretTurn, World.devices_untagged, Roster.find?_untagged]
  cases world.devices.find? key with
  | none => rfl
  | some device =>
      simp only [Option.map_some, Device.enabled_untagged, Device.turret?_untagged,
        Device.position_untagged, target?_untagged, World.setEquipment_untagged]
      split
      · split
        · rw [tagBlind_engage]
        · rfl
      · rfl

theorem tagBlind_runTurrets : TagBlind runTurrets := by
  intro world
  have hturns : TagBlind (inOrder (world.devices.keys.map (turretTurn (world.alarmLevel = .red)))) := by
    apply tagBlind_inOrder
    rintro phase member
    obtain ⟨key, -, rfl⟩ := List.mem_map.mp member
    exact tagBlind_turretTurn _ key
  simp only [runTurrets, World.devices_untagged, Roster.keys_untagged, World.alarmLevel_untagged]
  exact hturns world

/-! ### The player and the clock -/

theorem tagBlind_reachExit : TagBlind reachExit := fun _ => rfl

theorem tagBlind_stopAt (door : String) : TagBlind (stopAt door) := fun _ => rfl

theorem tagBlind_stepTo (level : Level) (cell : Point) : TagBlind (stepTo level cell) := by
  intro world
  by_cases out : cell = level.exit
  · simp only [stepTo, out, if_true]
    rfl
  · simp only [stepTo, out, if_false]
    rfl

theorem tagBlind_walk (level : Level) : TagBlind (walk level) := by
  intro world
  simp only [walk, World.player_untagged, World.devices_untagged, Roster.closedDoorAt_untagged]
  split
  · cases level.playerPath[world.player.pathIndex + 1]? with
    | none =>
        by_cases out : world.player.position = level.exit
        · simp only [out, if_true]
          exact tagBlind_reachExit world
        · simp only [out, if_false]
    | some cell =>
        cases hdoor : world.devices.closedDoorAt cell with
        | none =>
            simp only [hdoor, Option.map_none]
            exact tagBlind_stepTo level cell world
        | some door =>
            simp only [hdoor, Option.map_some]
            exact tagBlind_stopAt door.id world
  · rfl

theorem tagBlind_timeOut (limit : UInt64) : TagBlind (timeOut limit) := fun _ => rfl

end Tick

end Infiltration
