import Infiltration.Proofs.Roster
import Infiltration.Tick.Patrol
import Infiltration.Tick.Surveillance
import Infiltration.Tick.Turrets
import Mathlib.Data.Set.Insert

/-! # Deeds: the single changes that a tick is made of

A deed changes the world in one place and tells its occurrences. Its rules do not invoke the phases;
that every phase is a series of deeds is shown apart, and what all deeds keep every phase keeps. -/

namespace Infiltration

/-- Where in a tick a deed is done: by a script line, or by the level in one of its phases. -/
inductive Stage where
  | script (line : UInt32)
  | timers
  | patrol
  | cameras
  | alarm
  | turrets
  | walk
  | clock
  deriving DecidableEq

/-- The script line at work. -/
def Stage.line? : Stage → Option UInt32
  | script line => some line
  | _ => none

/-- The stage in which an occurrence is told. -/
def Occurrence.stage : Occurrence → Stage
  | lineExecuted line _ => .script line
  | cameraDisabled line _ _ => .script line
  | cameraEnabled (some line) _ => .script line
  | cameraEnabled none _ => .timers
  | alarmDelayed line _ => .script line
  | doorOpened line _ => .script line
  | doorClosed line _ => .script line
  | turretRetargeted line _ _ => .script line
  | deviceTagged line _ _ => .script line
  | logged line _ => .script line
  | playerDetected _ => .cameras
  | alarmChanged _ _ => .alarm
  | doorLockedDown _ => .alarm
  | targetLocked _ _ => .turrets
  | turretFired _ _ => .turrets
  | playerKilled _ => .turrets
  | droneDestroyed _ _ => .turrets
  | playerBlocked _ => .walk
  | exitReached => .walk
  | timedOut _ => .clock

/-- What the device under a key can go through in a world. -/
inductive Device.Deed (world : World) (key : String) :
    Stage → Device → List Occurrence → Device → Prop where
  | disabled {device camera} (line duration) (kind : device.equipment = .camera camera) :
      Deed world key (.script line) device [.cameraDisabled line key duration]
        { device with
          enabled := false
          equipment :=
            .camera { camera with disabledUntil := duration.map (Capped.add64 world.tick) } }
  | enabled {device camera} (line) (kind : device.equipment = .camera camera) :
      Deed world key (.script line) device [.cameraEnabled (some line) key]
        { device with enabled := true, equipment := .camera { camera with disabledUntil := none } }
  | opened {device door} (line) (kind : device.equipment = .door door) :
      Deed world key (.script line) device [.doorOpened line key]
        { device with equipment := .door { door with isOpen := true } }
  | closed {device door} (line) (kind : device.equipment = .door door) :
      Deed world key (.script line) device [.doorClosed line key]
        { device with equipment := .door { door with isOpen := false } }
  | retargeted {device turret} (line target) (kind : device.equipment = .turret turret) :
      Deed world key (.script line) device [.turretRetargeted line key target]
        { device with equipment := .turret (turret.retarget target) }
  | tagged {device} (line tag) :
      Deed world key (.script line) device [.deviceTagged line key tag]
        { device with tag := some tag }
  | woken {device camera deadline} (kind : device.equipment = .camera camera)
      (off : device.enabled = false) (timed : camera.disabledUntil = some deadline)
      (due : deadline ≤ world.tick) :
      Deed world key .timers device [.cameraEnabled none key]
        { device with enabled := true, equipment := .camera { camera with disabledUntil := none } }
  | patrolled {device} : Deed world key .patrol device [] device.patrol
  | lockedDown {device door} (kind : device.equipment = .door door) (flagged : door.closesOnRed = true)
      (wasOpen : door.isOpen = true) :
      Deed world key .alarm device [.doorLockedDown key]
        { device with equipment := .door { door with isOpen := false } }
  | released {device turret} (kind : device.equipment = .turret turret) (on : device.enabled = true) :
      Deed world key .turrets device [] { device with equipment := .turret turret.release }
  | held {device turret target} (kind : device.equipment = .turret turret) (on : device.enabled = true)
      (armed : turret.active (world.alarmLevel = .red) = true)
      (aim : world.target? device.position turret = some target)
      (early : (turret.track target.id).lockTicks < turret.lockDelay) :
      Deed world key .turrets device (turret.announceLock key target.id)
        { device with equipment := .turret (turret.track target.id) }
  | fired {device turret tracked target} (kind : device.equipment = .turret turret)
      (on : device.enabled = true) (armed : turret.active (world.alarmLevel = .red) = true)
      (aim : world.target? device.position turret = some target)
      (aimed : tracked = turret.track target.id) (ready : turret.lockDelay ≤ tracked.lockTicks) :
      Deed world key .turrets device
        (turret.announceLock key target.id ++ [.turretFired key target.id])
        { device with equipment := .turret { tracked with lockTicks := 0 } }
  | destroyed {device drone} (turret) (kind : device.equipment = .drone drone)
      (up : drone.alive = true) :
      Deed world key .turrets device [.droneDestroyed key turret]
        { device with enabled := false, equipment := .drone { drone with alive := false } }

/-- A deed in a world. Only what it names changes. -/
inductive Deed : Stage → World → List Occurrence → World → Prop where
  | device {stage world key device device' occurrences}
      (found : world.devices.find? key = some device)
      (deed : device.Deed world key stage occurrences device') :
      Deed stage world occurrences (world.modifyDevice key fun _ => device')
  | announced {world} (line command) :
      Deed (.script line) world [.lineExecuted line command] world
  | logged {world} (line message) : Deed (.script line) world [.logged line message] world
  | delayed {world key alarm} (line ticks) (first : world.devices.alarmEntry? = some (key, alarm)) :
      Deed (.script line) world [.alarmDelayed line ticks]
        (world.setEquipment key (.alarm (alarm.delay ticks)))
  | detected {world camera} (seen : camera ∈ world.sightings) :
      Deed .cameras world [.playerDetected camera] world
  | alerted {world key alarm} (first : world.devices.alarmEntry? = some (key, alarm))
      (calm : alarm.level = .green) (seen : world.sightings ≠ []) :
      Deed .alarm world [.alarmChanged .green .yellow]
        (world.setEquipment key (.alarm (alarm.alert world.tick).1))
  | reddened {world key alarm} (first : world.devices.alarmEntry? = some (key, alarm))
      (due : alarm.due world.tick = true) :
      Deed .alarm world [.alarmChanged .yellow .red] (world.setEquipment key (.alarm alarm.redden))
  | killed {world} (turret) (alive : world.player.alive = true) :
      Deed .turrets world [.playerKilled turret]
        { world with player := { world.player with alive := false } }
  | blocked {world} (door) (alive : world.player.alive = true) :
      Deed .walk world (if world.player.blockedBy = some door then [] else [.playerBlocked door])
        { world with player := { world.player with blockedBy := some door } }
  | moved {world} (cell) (alive : world.player.alive = true) :
      Deed .walk world []
        { world with
          player :=
            { world.player with
              position := cell, pathIndex := world.player.pathIndex + 1, blockedBy := none } }
  | exited {world} (alive : world.player.alive = true) (inside : world.player.reachedExit = false) :
      Deed .walk world [.exitReached]
        { world with player := { world.player with reachedExit := true } }
  | timedOut {world limit} (late : limit ≤ world.tick) :
      Deed .clock world [.timedOut limit] world

/-- Deeds one after the other, all of given stages. -/
inductive Deeds (stages : Set Stage) : World → List Occurrence → World → Prop where
  | nil (world) : Deeds stages world [] world
  | cons {stage world middle last first rest} (admitted : stage ∈ stages)
      (deed : Deed stage world first middle) (deeds : Deeds stages middle rest last) :
      Deeds stages world (first ++ rest) last

namespace Deeds

variable {stages more : Set Stage} {world middle last : World}
  {first rest occurrences : List Occurrence}

theorem single {stage : Stage} (admitted : stage ∈ stages)
    (deed : Deed stage world occurrences last) : Deeds stages world occurrences last := by
  simpa using cons admitted deed (nil last)

theorem trans (front : Deeds stages world first middle) (back : Deeds stages middle rest last) :
    Deeds stages world (first ++ rest) last := by
  induction front with
  | nil => exact back
  | cons admitted deed _ ih => simpa only [List.append_assoc] using cons admitted deed (ih back)

theorem mono (subset : stages ⊆ more) (deeds : Deeds stages world occurrences last) :
    Deeds more world occurrences last := by
  induction deeds with
  | nil world => exact nil world
  | cons admitted deed _ ih => exact cons (subset admitted) deed ih

/-- What every deed of the stages keeps, their series keeps. -/
theorem keeps {P : World → Prop}
    (kept : ∀ {stage world occurrences next}, stage ∈ stages → Deed stage world occurrences next →
      P world → P next)
    (deeds : Deeds stages world occurrences last) (h : P world) : P last := by
  induction deeds with
  | nil => exact h
  | cons admitted deed _ ih => exact ih (kept admitted deed h)

/-- What every occurrence of a deed of the stages satisfies, all those of their series satisfy. -/
theorem forall_mem {P : Occurrence → Prop}
    (told : ∀ {stage world occurrences next}, stage ∈ stages → Deed stage world occurrences next →
      ∀ occurrence ∈ occurrences, P occurrence)
    (deeds : Deeds stages world occurrences last) :
    ∀ occurrence ∈ occurrences, P occurrence := by
  induction deeds with
  | nil => simp
  | cons admitted deed _ ih =>
      intro occurrence member
      rcases List.mem_append.mp member with member | member
      · exact told admitted deed occurrence member
      · exact ih occurrence member

end Deeds

/-! ## What all deeds keep -/

namespace World

@[simp] theorem player_modifyDevice (world : World) (key : String) (change : Device → Device) :
    (world.modifyDevice key change).player = world.player := rfl

@[simp] theorem player_setEquipment (world : World) (key : String) (equipment : Equipment) :
    (world.setEquipment key equipment).player = world.player := rfl

@[simp] theorem devices_modifyDevice (world : World) (key : String) (change : Device → Device) :
    (world.modifyDevice key change).devices = world.devices.modify key change := rfl

end World

/-- A patrol changes nothing but a drone's place and its way there. -/
theorem Device.patrol_eq (device : Device) :
    device.patrol = device ∨ ∃ drone drone' position, device.equipment = .drone drone ∧
      drone'.alive = drone.alive ∧
        device.patrol = { device with position, equipment := .drone drone' } := by
  unfold patrol
  split
  · rename_i drone kind
    split
    · split
      · exact .inr ⟨drone, { drone with stepTimer := drone.stepTimer + 1 }, device.position, kind,
          rfl, rfl⟩
      · exact .inr ⟨drone, { drone with stepTimer := 0, pathIndex := drone.nextIndex }, _, kind, rfl,
          rfl⟩
    · exact .inl rfl
  · exact .inl rfl

/-- What does not show of a drone but its life does not show a patrol. -/
theorem Device.shown_patrol {α : Type} {shown : Device → α}
    (hidden : ∀ {device : Device} {drone drone' position}, device.equipment = .drone drone →
      drone'.alive = drone.alive →
        shown { device with position, equipment := .drone drone' } = shown device)
    (device : Device) : shown device.patrol = shown device := by
  rcases device.patrol_eq with h | ⟨drone, drone', position, kind, alive, h⟩
  · rw [h]
  · rw [h, hidden kind alive]

theorem Device.id_patrol (device : Device) : device.patrol.id = device.id :=
  shown_patrol (fun _ _ => rfl) device

theorem Device.type_patrol (device : Device) : device.patrol.type = device.type :=
  shown_patrol (fun kind _ => by simp [type, Equipment.type, kind]) device

theorem Device.alarm?_patrol (device : Device) : device.patrol.alarm? = device.alarm? :=
  shown_patrol (fun kind _ => by simp [alarm?, kind]) device

/-- The trigger of a turret. -/
def Device.trigger? (device : Device) : Option Trigger := device.turret?.map Turret.trigger

theorem Device.trigger?_patrol (device : Device) : device.patrol.trigger? = device.trigger? :=
  shown_patrol (fun kind _ => by simp [trigger?, turret?, kind]) device

theorem Turret.trigger_track (turret : Turret) (target : String) :
    (turret.track target).trigger = turret.trigger := by
  unfold track
  split <;> rfl

theorem Occurrence.line?_stage (occurrence : Occurrence) :
    occurrence.stage.line? = occurrence.line? := by
  cases occurrence with
  | cameraEnabled line => cases line <;> rfl
  | _ => rfl

theorem Alarm.level_delay (alarm : Alarm) (ticks : UInt64) :
    (alarm.delay ticks).level = alarm.level := by
  unfold delay
  split <;> rfl

namespace Device.Deed

variable {world : World} {key : String} {stage : Stage} {device device' : Device}
  {occurrences : List Occurrence}

theorem id_eq (deed : Deed world key stage device occurrences device') :
    device'.id = device.id := by
  cases deed with
  | patrolled => exact device.id_patrol
  | _ => rfl

theorem type_eq (deed : Deed world key stage device occurrences device') :
    device'.type = device.type := by
  cases deed with
  | patrolled => exact device.type_patrol
  | tagged => rfl
  | _ => simp_all [Device.type, Equipment.type]

theorem alarm?_eq (deed : Deed world key stage device occurrences device') :
    device'.alarm? = device.alarm? := by
  cases deed with
  | patrolled => exact device.alarm?_patrol
  | tagged => rfl
  | _ => simp_all [Device.alarm?]

theorem trigger?_eq (deed : Deed world key stage device occurrences device') :
    device'.trigger? = device.trigger? := by
  cases deed with
  | patrolled => exact device.trigger?_patrol
  | tagged => rfl
  | held kind => simp [Device.trigger?, Device.turret?, kind, Turret.trigger_track]
  | fired kind _ _ _ aimed =>
      simp [Device.trigger?, Device.turret?, kind, aimed, Turret.trigger_track]
  | released kind => simp [Device.trigger?, Device.turret?, kind, Turret.release]
  | retargeted _ _ kind => simp [Device.trigger?, Device.turret?, kind, Turret.retarget]
  | _ => simp_all [Device.trigger?, Device.turret?]

theorem stage_eq (deed : Deed world key stage device occurrences device') :
    ∀ occurrence ∈ occurrences, occurrence.stage = stage := by
  cases deed with
  | held =>
      simp only [Turret.announceLock]
      split <;> simp [Occurrence.stage]
  | fired =>
      simp only [Turret.announceLock]
      split <;> simp [Occurrence.stage]
  | _ => simp [Occurrence.stage]

end Device.Deed

namespace Deed

variable {stage : Stage} {world next : World} {occurrences : List Occurrence}

theorem tick_eq (deed : Deed stage world occurrences next) : next.tick = world.tick := by
  cases deed <;> rfl

theorem outcome_eq (deed : Deed stage world occurrences next) : next.outcome = world.outcome := by
  cases deed <;> rfl

/-- A deed tells only what belongs to its stage. -/
theorem stage_eq (deed : Deed stage world occurrences next) :
    ∀ occurrence ∈ occurrences, occurrence.stage = stage := by
  cases deed with
  | device _ deed => exact deed.stage_eq
  | blocked door => split <;> simp [Occurrence.stage]
  | _ => simp [Occurrence.stage]

/-- A part of the devices that stays the same in every deed on a device and in every change of an alarm
stays the same in the world. -/
theorem view_eq {α : Type} {shown : Device → α} (deed : Deed stage world occurrences next)
    (hidden : ∀ {key} {device device' : Device},
      device.Deed world key stage occurrences device' → shown device' = shown device)
    (alarms : ∀ {device : Device} {alarm alarm'}, device.equipment = .alarm alarm →
      shown { device with equipment := .alarm alarm' } = shown device) :
    next.devices.view shown = world.devices.view shown := by
  have hset {key alarm alarm'} (first : world.devices.alarmEntry? = some (key, alarm)) :
      (world.setEquipment key (.alarm alarm')).devices.view shown = world.devices.view shown := by
    obtain ⟨found, hfound, kind⟩ := Roster.alarmEntry?_eq_some first
    apply Roster.view_modify_of_hidden
    intro device hdevice
    obtain rfl : device = found := by simpa [hfound] using hdevice.symm
    exact alarms kind
  cases deed with
  | device found deed =>
      apply Roster.view_modify_of_hidden
      intro other hother
      obtain rfl := Option.some.inj (found.symm.trans hother)
      exact hidden deed
  | delayed _ _ first => exact hset first
  | alerted first => exact hset first
  | reddened first => exact hset first
  | _ => rfl

theorem types_eq (deed : Deed stage world occurrences next) :
    next.devices.view Device.type = world.devices.view Device.type :=
  deed.view_eq Device.Deed.type_eq fun kind => by simp [Device.type, Equipment.type, kind]

theorem ids_eq (deed : Deed stage world occurrences next) :
    next.devices.view Device.id = world.devices.view Device.id :=
  deed.view_eq Device.Deed.id_eq fun _ => rfl

theorem triggers_eq (deed : Deed stage world occurrences next) :
    next.devices.view Device.trigger? = world.devices.view Device.trigger? :=
  deed.view_eq Device.Deed.trigger?_eq fun kind => by simp [Device.trigger?, Device.turret?, kind]

/-- No alarm changes its level but in the alarm's own stage. -/
theorem alarmLevel_eq (deed : Deed stage world occurrences next) (h : stage ≠ .alarm) :
    next.alarmLevel = world.alarmLevel := by
  cases deed with
  | device found deed =>
      apply Roster.alarmLevel_of_view_eq
      apply Roster.view_modify_of_hidden
      intro device hdevice
      obtain rfl := Option.some.inj (found.symm.trans hdevice)
      exact deed.alarm?_eq
  | delayed line ticks first =>
      have hlevel := Alarm.level_delay
      simp [World.alarmLevel, World.setEquipment, Roster.alarmLevel, Roster.alarm?,
        Roster.alarmEntry?_modify first, first, hlevel]
  | alerted => exact absurd rfl h
  | reddened => exact absurd rfl h
  | _ => rfl

end Deed

namespace Deeds

variable {stages : Set Stage} {world last : World} {occurrences : List Occurrence}

theorem tick_eq (deeds : Deeds stages world occurrences last) : last.tick = world.tick :=
  deeds.keeps (P := fun next => next.tick = world.tick)
    (fun _ deed h => deed.tick_eq.trans h) rfl

theorem outcome_eq (deeds : Deeds stages world occurrences last) : last.outcome = world.outcome :=
  deeds.keeps (P := fun next => next.outcome = world.outcome)
    (fun _ deed h => deed.outcome_eq.trans h) rfl

theorem types_eq (deeds : Deeds stages world occurrences last) :
    last.devices.view Device.type = world.devices.view Device.type :=
  deeds.keeps (P := fun next => next.devices.view Device.type = world.devices.view Device.type)
    (fun _ deed h => deed.types_eq.trans h) rfl

theorem ids_eq (deeds : Deeds stages world occurrences last) :
    last.devices.view Device.id = world.devices.view Device.id :=
  deeds.keeps (P := fun next => next.devices.view Device.id = world.devices.view Device.id)
    (fun _ deed h => deed.ids_eq.trans h) rfl

theorem triggers_eq (deeds : Deeds stages world occurrences last) :
    last.devices.view Device.trigger? = world.devices.view Device.trigger? :=
  deeds.keeps (P := fun next =>
      next.devices.view Device.trigger? = world.devices.view Device.trigger?)
    (fun _ deed h => deed.triggers_eq.trans h) rfl

theorem alarmLevel_eq (calm : Stage.alarm ∉ stages) (deeds : Deeds stages world occurrences last) :
    last.alarmLevel = world.alarmLevel :=
  deeds.keeps (P := fun next => next.alarmLevel = world.alarmLevel)
    (fun admitted deed h => (deed.alarmLevel_eq fun heq => calm (heq ▸ admitted)).trans h) rfl

theorem stage_mem (deeds : Deeds stages world occurrences last) :
    ∀ occurrence ∈ occurrences, occurrence.stage ∈ stages :=
  deeds.forall_mem fun admitted deed occurrence member => by
    rwa [deed.stage_eq occurrence member]

theorem stage_ne (deeds : Deeds stages world occurrences last) {stage : Stage} (h : stage ∉ stages) :
    ∀ occurrence ∈ occurrences, occurrence.stage ≠ stage :=
  fun occurrence member heq => h (heq ▸ deeds.stage_mem occurrence member)

theorem not_told (deeds : Deeds stages world occurrences last) {occurrence : Occurrence}
    (h : occurrence.stage ∉ stages) : occurrence ∉ occurrences :=
  fun member => h (deeds.stage_mem occurrence member)

/-- Every occurrence names the script line that is at work in one of the stages, if one is. -/
theorem line?_eq (deeds : Deeds stages world occurrences last) :
    ∀ occurrence ∈ occurrences, ∃ stage ∈ stages, occurrence.line? = stage.line? :=
  fun occurrence member => ⟨_, deeds.stage_mem occurrence member, occurrence.line?_stage.symm⟩

end Deeds

end Infiltration
