import Infiltration.Proofs.Run.Trace

/-! # The log retells the run

A reader who has only the level and the log of a run can follow it: the events change doors,
switches, tags, targets, alarms, drones and the player, and what they leave agrees with the
snapshots. -/

namespace Infiltration

attribute [local irreducible] Mission.opening Mission.closing

/-! ## The rules of reading -/

def AlarmLevel.ofName? (name : String) : Option AlarmLevel :=
  AlarmLevel.all.find? fun level => level.name = name

namespace Device

def setOpen (isOpen : Bool) (device : Device) : Device :=
  match device.equipment with
  | .door door => { device with equipment := .door { door with isOpen } }
  | _ => device

def setDesired (target : String) (device : Device) : Device :=
  match device.equipment with
  | .turret turret =>
    { device with equipment := .turret { turret with desiredTarget := some target } }
  | _ => device

def setLevel (level : AlarmLevel) (device : Device) : Device :=
  match device.equipment with
  | .alarm alarm => { device with equipment := .alarm { alarm with level } }
  | _ => device

/-- A drone that is down is also switched off. -/
def setDown (device : Device) : Device :=
  match device.equipment with
  | .drone drone =>
    { device with enabled := false, equipment := .drone { drone with alive := false } }
  | _ => device

end Device

namespace World

/-- Set the level of the first alarm. -/
def setAlarm (world : World) (level : AlarmLevel) : World :=
  match world.devices.alarmEntry? with
  | some (key, _) => world.modifyDevice key (Device.setLevel level)
  | none => world

/-- What a reader makes of one event. An event that lacks a fact it should carry is passed over. -/
def retell (world : World) (event : Event) : World :=
  let changed (key : String) (change : Device → Device) : World :=
    match event.text? key with
    | some name => world.modifyDevice name change
    | none => world
  match event.kind with
  | .doorOpened => changed "doorId" (Device.setOpen true)
  | .doorClosed => changed "doorId" (Device.setOpen false)
  | .deviceDisabled => changed "deviceId" fun device => { device with enabled := false }
  | .deviceEnabled => changed "deviceId" fun device => { device with enabled := true }
  | .deviceTagged =>
    match event.text? "tag" with
    | some tag => changed "deviceId" fun device => { device with tag := some tag }
    | none => world
  | .turretRetargeted =>
    match event.text? "targetId" with
    | some target => changed "turretId" (Device.setDesired target)
    | none => world
  | .alarmStateChanged =>
    match (event.text? "to").bind AlarmLevel.ofName? with
    | some level => world.setAlarm level
    | none => world
  | .droneDestroyed => changed "droneId" Device.setDown
  | .playerKilled => { world with player := { world.player with alive := false } }
  | .playerReachedExit => { world with player := { world.player with reachedExit := true } }
  | _ => world

end World

/-- Read a log on from a world, event by event. -/
def Log.retold (log : Log) (world : World) : World := log.foldl World.retell world

theorem Log.retold_append (front back : Log) (world : World) :
    Log.retold (front ++ back) world = Log.retold back (Log.retold front world) :=
  List.foldl_append

/-! ## What the log tells -/

/-- The part of a piece of equipment that the log tells of. -/
inductive Equipment.Outline where
  | camera
  | turret (desiredTarget : Option String)
  | drone (alive : Bool)
  | door (isOpen : Bool)
  | alarm (level : AlarmLevel)
  | terminal
  deriving DecidableEq, Repr

def Equipment.outline : Equipment → Outline
  | .camera _ => .camera
  | .turret part => .turret part.desiredTarget
  | .drone part => .drone part.alive
  | .door part => .door part.isOpen
  | .alarm part => .alarm part.level
  | .terminal => .terminal

/-- The part of a device that the log tells of. -/
structure Device.Outline where
  enabled : Bool
  tag : Option String
  equipment : Equipment.Outline
  deriving DecidableEq, Repr

def Device.outline (device : Device) : Device.Outline where
  enabled := device.enabled
  tag := device.tag
  equipment := device.equipment.outline

/-- A world agrees with devices and a player: the same keys with the same outlines, the same end. -/
structure World.Agrees (world : World) (devices : Roster) (player : Player) : Prop where
  outlines : world.devices.view Device.outline = devices.view Device.outline
  alive : world.player.alive = player.alive
  reachedExit : world.player.reachedExit = player.reachedExit

/-! ## Reading occurrences -/

theorem AlarmLevel.ofName?_name (level : AlarmLevel) : ofName? level.name = some level := by
  cases level <;> rfl

namespace World

/-- What a reader makes of an occurrence. -/
def hear (world : World) : Occurrence → World
  | .cameraDisabled _ key _ => world.modifyDevice key fun device => { device with enabled := false }
  | .cameraEnabled _ key => world.modifyDevice key fun device => { device with enabled := true }
  | .doorOpened _ key => world.modifyDevice key (Device.setOpen true)
  | .doorClosed _ key => world.modifyDevice key (Device.setOpen false)
  | .doorLockedDown key => world.modifyDevice key (Device.setOpen false)
  | .turretRetargeted _ key target => world.modifyDevice key (Device.setDesired target)
  | .deviceTagged _ key tag => world.modifyDevice key fun device => { device with tag := some tag }
  | .alarmChanged _ new => world.setAlarm new
  | .droneDestroyed key _ => world.modifyDevice key Device.setDown
  | .playerKilled _ => { world with player := { world.player with alive := false } }
  | .exitReached => { world with player := { world.player with reachedExit := true } }
  | _ => world

/-- The entry of an occurrence in the log has all that a reader needs. -/
theorem retell_event (world : World) (occurrence : Occurrence) (id tick : UInt64) :
    world.retell (occurrence.event id tick) = world.hear occurrence := by
  cases occurrence <;>
    simp [retell, hear, Occurrence.event, Occurrence.kind, Occurrence.facts, Event.text?,
      Payload.text?, Payload.ofList, Payload.get?_insert_of_ne, Fact.text?, AlarmLevel.ofName?_name]

theorem retold_enterFrom (entered : ℕ) (tick : UInt64) (occurrences : List Occurrence)
    (world : World) :
    Log.retold (enterFrom entered tick occurrences) world = occurrences.foldl hear world := by
  induction occurrences generalizing entered world with
  | nil => rfl
  | cons occurrence rest ih =>
      simp only [Log.retold] at ih
      simp only [Log.retold, enterFrom, List.foldl_cons, retell_event, ih]

end World

/-! ## The reader keeps up -/

def Equipment.Outline.type : Equipment.Outline → DeviceType
  | camera => .camera
  | turret _ => .turret
  | drone _ => .drone
  | door _ => .door
  | alarm _ => .alarm
  | terminal => .terminal

theorem Device.type_outline (device : Device) : device.outline.equipment.type = device.type := by
  cases h : device.equipment <;>
    simp [outline, Equipment.outline, Equipment.Outline.type, type, Equipment.type, h]

namespace World.Agrees

variable {told world : World} {key : String} {device device' : Device}

/-- What shows in a device and is told keeps the worlds in agreement. -/
theorem modify (h : told.Agrees world.devices world.player)
    (found : world.devices.find? key = some device) {change : Device → Device}
    (alike : ∀ shown, shown.outline = device.outline →
      (change shown).outline = device'.outline) :
    (told.modifyDevice key change).Agrees (world.modifyDevice key fun _ => device').devices
      world.player where
  outlines := by
    apply Roster.view_modify_congr h.outlines
    intro shown other _ hother heq
    obtain rfl := Option.some.inj (found.symm.trans hother)
    exact alike shown heq
  alive := h.alive
  reachedExit := h.reachedExit

/-- What does not show need not be told. -/
theorem hide (h : told.Agrees world.devices world.player)
    (found : world.devices.find? key = some device) (same : device'.outline = device.outline) :
    told.Agrees (world.modifyDevice key fun _ => device').devices world.player where
  outlines := by
    rw [h.outlines, devices_modifyDevice, Roster.view_modify_of_hidden]
    intro other hother
    obtain rfl := Option.some.inj (found.symm.trans hother)
    exact same
  alive := h.alive
  reachedExit := h.reachedExit

/-- The reader knows which alarm is the first. -/
theorem key_alarmEntry? (h : told.Agrees world.devices world.player) :
    told.devices.alarmEntry?.map Prod.fst = world.devices.alarmEntry?.map Prod.fst := by
  have htypes : told.devices.view Device.type = world.devices.view Device.type := by
    have hview (roster : Roster) :=
      roster.view_comp Device.outline fun shown => shown.equipment.type
    simp only [Device.type_outline] at hview
    exact (hview _).trans ((congrArg _ h.outlines).trans (hview _).symm)
  rw [Roster.key_alarmEntry?, Roster.key_alarmEntry?, htypes]

/-- A change of the first alarm that is told keeps the worlds in agreement. -/
theorem setAlarm {alarm alarm' : Alarm} (h : told.Agrees world.devices world.player)
    (first : world.devices.alarmEntry? = some (key, alarm)) {level : AlarmLevel}
    (heq : alarm'.level = level) :
    (told.setAlarm level).Agrees (world.setEquipment key (.alarm alarm')).devices world.player := by
  obtain ⟨device, found, kind⟩ := Roster.alarmEntry?_eq_some first
  have hkey := h.key_alarmEntry?
  rw [first, Option.map_some, Option.map_eq_some_iff] at hkey
  obtain ⟨⟨other, old⟩, hentry, rfl⟩ := hkey
  rw [World.setEquipment, World.modifyDevice_of_find? found]
  simp only [World.setAlarm, hentry]
  apply h.modify found
  intro shown hshown
  cases h : shown.equipment <;> simp_all [Device.setLevel, Device.outline, Equipment.outline]

/-- A change of the first alarm that keeps the level does not show. -/
theorem keepAlarm {alarm alarm' : Alarm} (h : told.Agrees world.devices world.player)
    (first : world.devices.alarmEntry? = some (key, alarm)) (heq : alarm'.level = alarm.level) :
    told.Agrees (world.setEquipment key (.alarm alarm')).devices world.player := by
  obtain ⟨device, found, kind⟩ := Roster.alarmEntry?_eq_some first
  rw [World.setEquipment, World.modifyDevice_of_find? found]
  apply h.hide found
  simp [Device.outline, Equipment.outline, kind, heq]

end World.Agrees

theorem Device.outline_patrol (device : Device) : device.patrol.outline = device.outline :=
  shown_patrol (fun kind alive => by simp [outline, Equipment.outline, kind, alive]) device

/-- Announcements of locks mean nothing to the reader. -/
theorem Turret.hear_announceLock (turret : Turret) (id target : String) (world : World) :
    (turret.announceLock id target).foldl World.hear world = world := by
  unfold announceLock
  split <;> rfl

theorem Turret.desiredTarget_track (turret : Turret) (target : String) :
    (turret.track target).desiredTarget = turret.desiredTarget := by
  unfold track
  split <;> rfl

theorem Device.Deed.hear {told world : World} {key : String} {stage : Stage}
    {device device' : Device} {occurrences : List Occurrence}
    (h : told.Agrees world.devices world.player)
    (found : world.devices.find? key = some device)
    (deed : device.Deed world key stage occurrences device') :
    (occurrences.foldl World.hear told).Agrees (world.modifyDevice key fun _ => device').devices
      world.player := by
  cases deed with
  | patrolled => exact h.hide found device.outline_patrol
  | released kind => exact h.hide found (by simp [outline, Equipment.outline, kind, Turret.release])
  | held kind =>
      rw [Turret.hear_announceLock]
      exact h.hide found (by simp [outline, Equipment.outline, kind, Turret.desiredTarget_track])
  | fired kind _ _ _ aimed =>
      rw [List.foldl_append, Turret.hear_announceLock]
      apply h.hide found
      simp [outline, Equipment.outline, kind, aimed, Turret.desiredTarget_track]
  | tagged =>
      apply h.modify found
      intro shown hshown
      simp_all [outline]
  | _ =>
      apply h.modify found
      intro shown hshown
      cases kindShown : shown.equipment <;>
        simp_all [outline, Equipment.outline, setOpen, setDesired, setDown, Turret.retarget]

/-- A reader who agrees with the world before a deed and hears of it agrees with the world after. -/
theorem Deed.hear {told world next : World} {stage : Stage} {occurrences : List Occurrence}
    (h : told.Agrees world.devices world.player) (deed : Deed stage world occurrences next) :
    (occurrences.foldl World.hear told).Agrees next.devices next.player := by
  cases deed with
  | device found deed => exact deed.hear h found
  | delayed _ ticks first => exact h.keepAlarm first (Alarm.level_delay _ ticks)
  | alerted first calm => exact h.setAlarm first (by simp [Alarm.alert, calm])
  | reddened first => exact h.setAlarm first rfl
  | killed => exact ⟨h.outlines, rfl, h.reachedExit⟩
  | blocked =>
      split
      · exact ⟨h.outlines, h.alive, h.reachedExit⟩
      · exact ⟨h.outlines, h.alive, h.reachedExit⟩
  | moved => exact ⟨h.outlines, h.alive, h.reachedExit⟩
  | exited => exact ⟨h.outlines, h.alive, rfl⟩
  | announced => exact h
  | logged => exact h
  | detected => exact h
  | timedOut => exact h

theorem Deeds.hear {told world last : World} {stages : Set Stage} {occurrences : List Occurrence}
    (h : told.Agrees world.devices world.player) (deeds : Deeds stages world occurrences last) :
    (occurrences.foldl World.hear told).Agrees last.devices last.player := by
  induction deeds generalizing told with
  | nil => exact h
  | cons _ deed _ ih =>
      rw [List.foldl_append]
      exact ih (deed.hear h)

/-! ## The reader of a run -/

/-- A reader who has followed the log up to a tick has followed it to the end of that tick. -/
theorem Engine.retold_entries {engine : Engine} {told : World}
    (labelled : engine.world.devices.Labelled)
    (h : told.Agrees engine.world.devices engine.world.player) :
    (Log.retold engine.entries told).Agrees engine.closed.1.devices engine.closed.1.player := by
  rw [Engine.entries, World.retold_enterFrom]
  exact (Engine.play_deeds labelled).hear h

namespace Mission

variable (mission : Mission)

theorem retold_after (steps : ℕ) :
    (Log.retold (mission.after steps).log (World.start mission.level)).Agrees
      (mission.after steps).world.devices (mission.after steps).world.player := by
  apply mission.after_induction (P := fun engine =>
    (Log.retold engine.log (World.start mission.level)).Agrees engine.world.devices
      engine.world.player)
  · exact ⟨rfl, rfl, rfl⟩
  · intro engine labelled h _
    rw [Engine.log_play, Log.retold_append, Engine.world_play, devices_settle, player_settle]
    exact Engine.retold_entries labelled h

theorem retold_scene {step : ℕ} (h : step < mission.duration) :
    (Log.retold (mission.after (step + 1)).log (World.start mission.level)).Agrees
      (mission.after step).scene.snapshot.devices (mission.after step).scene.snapshot.player := by
  rw [mission.after_succ_of_running (mission.running_of_lt h), Engine.log_play, Log.retold_append,
    Engine.devices_scene, Engine.player_scene]
  exact Engine.retold_entries (mission.labelled_after step) (mission.retold_after step)

theorem log_until_scene {step : ℕ} (h : step < mission.duration) :
    ((mission.after mission.duration).log.filter fun event =>
      event.tick ≤ (mission.after step).scene.tick) = (mission.after (step + 1)).log := by
  rw [← mission.log_before (Nat.succ_le_of_lt h) le_rfl]
  apply List.filter_congr
  intro event _
  rw [decide_eq_decide, UInt64.le_iff_toNat_le, mission.tick_scene h, Nat.lt_succ_iff]

end Mission

/-- Every snapshot of a run shows what a reader of the log knows who starts from the level and has
read all events that are not after the snapshot. -/
theorem simulate_retold (level : Level) (cues : List Script.Cue) (config : Config) {frame : Frame}
    (member : frame ∈ (simulate level cues config).frames) :
    (Log.retold ((simulate level cues config).events.filter fun event => event.tick ≤ frame.tick)
      (World.start level)).Agrees frame.snapshot.devices frame.snapshot.player := by
  rw [RunResult.simulate_eq] at member ⊢
  obtain ⟨step, hstep⟩ := List.mem_iff_getElem?.mp member
  obtain ⟨hlt, rfl⟩ := Mission.getElem?_frames _ hstep
  rw [RunResult.events_ofEngine, Mission.log_until_scene _ hlt]
  exact Mission.retold_scene _ hlt

theorem retold_corridor :
    ∃ frame ∈ (simulate corridor corridorCues { storeDigests := false }).frames,
      (frame.snapshot.devices.view Device.outline = [("gate", ⟨true, none, .door true⟩)]) ∧
        (Log.retold ((simulate corridor corridorCues { storeDigests := false }).events.filter
          fun event => event.tick ≤ frame.tick) (World.start corridor)).Agrees
            frame.snapshot.devices frame.snapshot.player := by
  have hlength : 1 < (simulate corridor corridorCues { storeDigests := false }).frames.length := by
    decide +kernel
  have member := List.get_mem _ (⟨1, hlength⟩ : Fin _)
  exact ⟨_, member, by decide +kernel +revert, simulate_retold corridor corridorCues _ member⟩

end Infiltration
