import Infiltration.Engine
import Infiltration.Proofs.Tick.Deed

/-! # Every phase is a series of deeds

Sweeps over all devices are taken apart into visits of one device after the other, turns of turrets
into aiming and shooting. Some occurrences name a device by its id and some by its key, so devices
have to stand under their ids. -/

namespace Infiltration

/-- Every device stands under its own id. -/
def Roster.Labelled (roster : Roster) : Prop :=
  ∀ key device, roster.find? key = some device → device.id = key

theorem Roster.Labelled.of_view_eq {a b : Roster} (labelled : a.Labelled)
    (h : b.view Device.id = a.view Device.id) : b.Labelled := by
  intro key device found
  obtain ⟨other, hother, hid⟩ := Roster.find?_of_view_eq h found
  rw [← hid]
  exact labelled key other hother

theorem Roster.Labelled.insert {roster : Roster} (labelled : roster.Labelled) (device : Device) :
    (roster.insert device.id device).Labelled := by
  intro key other found
  by_cases hkey : key = device.id
  · subst hkey
    rw [find?_insert_self, Option.some.injEq] at found
    rw [found]
  · rw [find?_insert_of_ne roster hkey] at found
    exact labelled key other found

theorem Roster.labelled_ofDevices (devices : List Device) : (ofDevices devices).Labelled := by
  have hfold : ∀ (devices : List Device) (roster : Roster), roster.Labelled →
      ((devices.map fun device => (device.id, device)).foldl
        (fun roster entry => roster.insert entry.1 entry.2) roster).Labelled := by
    intro devices
    induction devices with
    | nil => exact fun _ labelled => labelled
    | cons device rest ih => exact fun roster labelled => ih _ (labelled.insert device)
  apply hfold devices empty
  intro key device found
  simp [find?, empty] at found

/-- A roster of devices has no others, each under its id. -/
theorem Roster.mem_of_find?_ofDevices {devices : List Device} {key : String} {device : Device}
    (found : (ofDevices devices).find? key = some device) : device ∈ devices ∧ device.id = key := by
  have hfold : ∀ (devices : List Device) (roster : Roster),
      ((devices.map fun device => (device.id, device)).foldl
        (fun roster entry => roster.insert entry.1 entry.2) roster).find? key = some device →
          device ∈ devices ∨ roster.find? key = some device := by
    intro devices
    induction devices with
    | nil => exact fun _ found => .inr found
    | cons first rest ih =>
        intro roster found
        rcases ih _ found with member | found
        · exact .inl (List.mem_cons_of_mem _ member)
        · by_cases hkey : key = first.id
          · subst hkey
            rw [find?_insert_self, Option.some.injEq] at found
            exact .inl (found ▸ List.mem_cons_self)
          · exact .inr ((find?_insert_of_ne roster hkey first).symm.trans found)
  refine ⟨(hfold devices empty found).resolve_right ?_, labelled_ofDevices devices key device found⟩
  simp [find?, empty]

namespace Roster

variable {roster : Roster} (labelled : roster.Labelled)

include labelled

theorem map_id_devices : roster.devices.map Device.id = roster.keys := by
  rw [devices, keys, List.map_map]
  refine List.map_congr_left fun entry member => ?_
  exact labelled entry.1 entry.2 (find?_eq_some.mpr member)

theorem mem_map_id_filter {p : Device → Bool} {key : String} :
    key ∈ (roster.devices.filter p).map Device.id ↔
      ∃ device, roster.find? key = some device ∧ p device = true := by
  constructor
  · intro h
    obtain ⟨device, member, rfl⟩ := List.mem_map.mp h
    obtain ⟨hdevice, hp⟩ := List.mem_filter.mp member
    obtain ⟨⟨other, _⟩, hentry, rfl⟩ := List.mem_map.mp hdevice
    have found := find?_eq_some.mpr hentry
    rw [labelled other _ found]
    exact ⟨_, found, hp⟩
  · rintro ⟨device, found, hp⟩
    have hentry := find?_eq_some.mp found
    rw [← labelled key device found]
    exact List.mem_map_of_mem (List.mem_filter.mpr ⟨List.mem_map_of_mem hentry, hp⟩)

theorem nodup_map_id_filter (p : Device → Bool) :
    ((roster.devices.filter p).map Device.id).Nodup := by
  have hids : (roster.devices.map Device.id).Nodup := by
    rw [map_id_devices labelled]
    exact roster.nodup
  exact hids.sublist ((roster.devices.filter_sublist).map Device.id)

end Roster

theorem Deeds.labelled {stages : Set Stage} {world last : World} {occurrences : List Occurrence}
    (deeds : Deeds stages world occurrences last) (labelled : world.devices.Labelled) :
    last.devices.Labelled :=
  labelled.of_view_eq deeds.ids_eq

theorem World.modifyDevice_of_find? {world : World} {key : String} {device : Device}
    (found : world.devices.find? key = some device) (change : Device → Device) :
    world.modifyDevice key change = world.modifyDevice key fun _ => change device := by
  unfold modifyDevice
  rw [Roster.modify_congr (g := fun _ => change device)]
  intro other hother
  rw [Option.some.inj (found.symm.trans hother)]

theorem Deed.ofChange {stage : Stage} {world : World} {key : String} {device : Device}
    {f : Device → Device} {occurrences : List Occurrence}
    (found : world.devices.find? key = some device)
    (deed : device.Deed world key stage occurrences (f device)) :
    Deed stage world occurrences (world.modifyDevice key f) := by
  rw [World.modifyDevice_of_find? found]
  exact .device found deed

/-- To put the same equipment in changes nothing. -/
theorem World.setEquipment_of_eq {world : World} {key : String} {device : Device}
    (found : world.devices.find? key = some device) :
    world.setEquipment key device.equipment = world := by
  unfold setEquipment modifyDevice
  rw [Roster.modify_of_idle]
  intro other hother
  rw [Option.some.inj (found.symm.trans hother)]

theorem World.setEquipment_setEquipment (world : World) (key : String) (first second : Equipment) :
    (world.setEquipment key first).setEquipment key second = world.setEquipment key second := by
  simp only [setEquipment, modifyDevice, Roster.modify_modify]

namespace Tick

/-! ## Series of phases -/

/-- Phases that are series of deeds wherever a property holds make one series, if deeds keep the
property. -/
theorem inOrder_deeds {stages : Set Stage} {P : World → Prop} {phases : List Phase}
    (kept : ∀ {world occurrences last}, Deeds stages world occurrences last → P world → P last)
    (each : ∀ phase ∈ phases, ∀ world, P world →
      Deeds stages world (phase world).2 (phase world).1)
    {world : World} (h : P world) :
    Deeds stages world (inOrder phases world).2 (inOrder phases world).1 := by
  induction phases generalizing world with
  | nil => exact .nil world
  | cons phase rest ih =>
      have hphase := each phase List.mem_cons_self world h
      rw [inOrder_cons]
      refine hphase.trans (ih ?_ (kept hphase h))
      intro other hother
      exact each other (List.mem_cons_of_mem _ hother)

/-! ## Commands -/

/-- A change to the device of which a part was found, if it is a deed of the device. -/
private theorem found_deeds {α : Type} {view : Device → Option α} {world : World} {stage : Stage}
    {key : String} {part : α} {occurrences : List Occurrence} {f : Device → Device}
    (hpart : world.devices.part? key view = some part)
    (deed : ∀ device, view device = some part →
      device.Deed world key stage occurrences (f device)) :
    Deeds {stage} world occurrences (world.modifyDevice key f) := by
  obtain ⟨device, found, hview⟩ := Roster.part?_eq_some.mp hpart
  exact .single rfl (.ofChange found (deed device hview))

theorem perform_deeds (world : World) (line : UInt32) (command : Script.Command) :
    Deeds {.script line} world (world.perform line command).2 (world.perform line command).1 := by
  cases command with
  | disableCamera key duration =>
      simp only [World.perform]
      split
      · exact found_deeds ‹_› fun _ h => .disabled line duration (Device.camera?_eq_some.mp h)
      · exact .nil world
  | enableCamera key =>
      simp only [World.perform]
      split
      · exact found_deeds ‹_› fun _ h => .enabled line (Device.camera?_eq_some.mp h)
      · exact .nil world
  | delayAlarm ticks =>
      simp only [World.perform]
      split
      · rename_i key alarm first
        exact .single rfl (.delayed line ticks first)
      · exact .nil world
  | openDoor key =>
      simp only [World.perform]
      split
      · exact found_deeds ‹_› fun _ h => .opened line (Device.door?_eq_some.mp h)
      · exact .nil world
  | closeDoor key =>
      simp only [World.perform]
      split
      · exact found_deeds ‹_› fun _ h => .closed line (Device.door?_eq_some.mp h)
      · exact .nil world
  | retargetTurret key target =>
      simp only [World.perform]
      split
      · exact found_deeds ‹_› fun _ h => .retargeted line target (Device.turret?_eq_some.mp h)
      · exact .nil world
  | tagDevice key tag =>
      simp only [World.perform]
      split
      · rename_i device found
        exact .single rfl (.ofChange found (.tagged line tag))
      · exact .nil world
  | log message => exact .single rfl (.logged line message)
  | wait ticks => exact .nil world

theorem runCue_deeds (cue : Script.Cue) (world : World) :
    Deeds {.script cue.line} world (runCue cue world).2 (runCue cue world).1 :=
  .cons (Set.mem_singleton _) (.announced cue.line cue.command)
    (perform_deeds world cue.line cue.command)

/-- The stages of cues: their script lines. -/
def scripted (cues : List Script.Cue) : Set Stage :=
  {stage | ∃ cue ∈ cues, stage = .script cue.line}

theorem runCues_deeds (cues : List Script.Cue) (world : World) :
    Deeds (scripted cues) world (runCues cues world).2 (runCues cues world).1 := by
  apply inOrder_deeds (P := fun _ => True) (fun _ _ => trivial) _ trivial
  intro phase member world _
  obtain ⟨cue, hcue, rfl⟩ := List.mem_map.mp member
  apply (runCue_deeds cue world).mono
  rintro stage rfl
  exact ⟨cue, hcue, rfl⟩

/-! ## Sweeps -/

/-- A sweep visits one device after the other; what it has not reached yet is as before. -/
private theorem sweepFrom_deeds {stage : Stage} {tick : UInt64}
    {visit : Device → Device × List Occurrence}
    (lawful : ∀ (world : World) (device : Device), world.tick = tick →
      visit device = (device, []) ∨
        device.Deed world device.id stage (visit device).2 (visit device).1) :
    ∀ (todo done : List (String × Device)) (world last : World),
      world.tick = tick → world.devices.Labelled → world.devices.entries = done ++ todo →
      last = { world with devices := last.devices } →
      last.devices.entries = done ++ todo.map (fun entry => (entry.1, (visit entry.2).1)) →
      Deeds {stage} world (todo.flatMap fun entry => (visit entry.2).2) last := by
  intro todo
  induction todo with
  | nil =>
      intro done world last _ _ hworld hlast hdone
      have heq : last.devices = world.devices := Roster.ext (by simpa [hworld] using hdone)
      rw [hlast, heq]
      exact .nil world
  | cons entry rest ih =>
      intro done world last htick labelled hworld hlast hdone
      obtain ⟨key, device⟩ := entry
      have found : world.devices.find? key = some device := by
        rw [Roster.find?_eq_some, hworld]
        simp
      let next := world.modifyDevice key fun _ => (visit device).1
      have hvisit : Deeds {stage} world (visit device).2 next := by
        rcases lawful world device htick with idle | deed
        · have hnext : next = world := by
            simp only [next, World.modifyDevice, idle]
            rw [Roster.modify_of_idle]
            intro other hother
            exact Option.some.inj (found.symm.trans hother)
          rw [hnext, idle]
          exact .nil world
        · rw [labelled key device found] at deed
          exact .single rfl (.device found deed)
      have hentries : next.devices.entries = (done ++ [(key, (visit device).1)]) ++ rest := by
        rw [World.devices_modifyDevice, Roster.entries_modify_of_append hworld]
        simp
      have hrest := ih (done ++ [(key, (visit device).1)]) next last htick
        (hvisit.labelled labelled) hentries hlast (by simpa using hdone)
      exact hvisit.trans hrest

theorem sweep_deeds {stage : Stage} {world : World} {visit : Device → Device × List Occurrence}
    (lawful : ∀ (other : World) (device : Device), other.tick = world.tick →
      visit device = (device, []) ∨
        device.Deed other device.id stage (visit device).2 (visit device).1)
    (labelled : world.devices.Labelled) :
    Deeds {stage} world (world.devices.sweep visit).2
      { world with devices := (world.devices.sweep visit).1 } := by
  have h := sweepFrom_deeds lawful world.devices.entries [] world
    { world with devices := (world.devices.sweep visit).1 } rfl labelled rfl rfl rfl
  simpa only [Roster.sweep, Roster.devices, List.flatMap_map] using h

theorem wakeCameras_deeds {world : World} (labelled : world.devices.Labelled) :
    Deeds {.timers} world (wakeCameras world).2 (wakeCameras world).1 := by
  apply sweep_deeds _ labelled
  intro other device htick
  unfold Device.wake
  split
  · rename_i camera kind
    split
    · rename_i deadline off timed
      split
      · rename_i due
        exact .inr (.woken kind off timed (htick ▸ due))
      · exact .inl rfl
    · exact .inl rfl
  · exact .inl rfl

theorem moveDrones_deeds {world : World} (labelled : world.devices.Labelled) :
    Deeds {.patrol} world (moveDrones world).2 (moveDrones world).1 := by
  let visit : Device → Device × List Occurrence := fun device => (device.patrol, [])
  have hsweep : world.devices.sweep visit = (world.devices.map Device.patrol, []) := by
    simp [Roster.sweep, visit]
  have h : Deeds {.patrol} world (world.devices.sweep visit).2
      { world with devices := (world.devices.sweep visit).1 } :=
    sweep_deeds (fun _ _ _ => .inr .patrolled) labelled
  rwa [hsweep] at h

theorem lockDoors_deeds {world : World} (labelled : world.devices.Labelled) :
    Deeds {.alarm} world (lockDoors world).2 (lockDoors world).1 := by
  apply sweep_deeds _ labelled
  intro other device _
  unfold Device.lockDown
  split
  · rename_i door kind
    split
    · rename_i locks
      rw [Bool.and_eq_true] at locks
      exact .inr (.lockedDown kind locks.1 locks.2)
    · exact .inl rfl
  · exact .inl rfl

/-! ## Cameras and the alarm -/

theorem reportSightings_deeds (watching : List String) (world : World) :
    Deeds {.cameras} world (reportSightings watching world).2
      (reportSightings watching world).1 := by
  have hreport : ∀ cameras : List String, (∀ camera ∈ cameras, camera ∈ world.sightings) →
      Deeds {.cameras} world (cameras.map .playerDetected) world := by
    intro cameras
    induction cameras with
    | nil => exact fun _ => .nil world
    | cons camera rest ih =>
        intro seen
        have hrest := ih fun other member => seen other (List.mem_cons_of_mem _ member)
        exact .cons (Set.mem_singleton _) (.detected (seen camera List.mem_cons_self)) hrest
  exact hreport _ fun camera member => List.mem_of_mem_filter member

theorem turnRed_deeds {world : World} {key : String} {alarm : Alarm}
    (labelled : world.devices.Labelled) (first : world.devices.alarmEntry? = some (key, alarm))
    (due : alarm.due world.tick = true) :
    Deeds {.alarm} world (turnRed key alarm world).2 (turnRed key alarm world).1 := by
  have hred : Deeds {.alarm} world [.alarmChanged .yellow .red]
      (world.setEquipment key (.alarm alarm.redden)) := .single rfl (.reddened first due)
  exact hred.trans (lockDoors_deeds (hred.labelled labelled))

/-- What the sight of the player makes of the alarm is a series of deeds that leaves it the first. -/
private theorem alert_deeds {world : World} {key : String} {alarm : Alarm}
    (first : world.devices.alarmEntry? = some (key, alarm)) :
    let alerted := if world.sightings.isEmpty then (alarm, []) else alarm.alert world.tick
    let next := world.setEquipment key (.alarm alerted.1)
    Deeds {.alarm} world alerted.2 next ∧ next.devices.alarmEntry? = some (key, alerted.1) := by
  obtain ⟨device, found, kind⟩ := Roster.alarmEntry?_eq_some first
  have hsame : world.setEquipment key (.alarm alarm) = world :=
    kind ▸ World.setEquipment_of_eq found
  have idle : Deeds {.alarm} world [] (world.setEquipment key (.alarm alarm)) := by
    rw [hsame]
    exact .nil world
  refine ⟨?_, Roster.alarmEntry?_modify first⟩
  by_cases seen : world.sightings = []
  · simpa [seen] using idle
  · have hseen : world.sightings.isEmpty = false := by simpa using seen
    simp only [hseen, Bool.false_eq_true, ite_false]
    by_cases calm : alarm.level = .green
    · have htold : (alarm.alert world.tick).2 = [.alarmChanged .green .yellow] := by
        simp [Alarm.alert, calm]
      rw [htold]
      exact .single rfl (.alerted first calm seen)
    · have halert : alarm.alert world.tick = (alarm, []) := by simp [Alarm.alert, calm]
      rw [halert]
      exact idle

theorem escalate_deeds {world : World} (labelled : world.devices.Labelled) :
    Deeds {.alarm} world (escalate world).2 (escalate world).1 := by
  cases first : world.devices.alarmEntry? with
  | none =>
      simp only [escalate, first]
      exact .nil world
  | some entry =>
      obtain ⟨key, alarm⟩ := entry
      obtain ⟨halert, hfirst⟩ := alert_deeds first
      simp only [escalate, first]
      generalize (if world.sightings.isEmpty then (alarm, []) else alarm.alert world.tick) =
        alerted at halert hfirst ⊢
      split
      · rename_i due
        have hred := turnRed_deeds (halert.labelled labelled) hfirst due
        have hturn : turnRed key alerted.1 (world.setEquipment key (.alarm alerted.1)) =
            turnRed key alerted.1 world := by
          simp only [turnRed, World.setEquipment_setEquipment]
        rw [hturn] at hred
        exact halert.trans hred
      · exact halert

/-! ## Turrets -/

theorem shoot_deeds (world : World) (turret : String) (target : Target) :
    Deeds {.turrets} world (world.shoot turret target).2 (world.shoot turret target).1 := by
  cases target with
  | player =>
      simp only [World.shoot]
      split
      · rename_i alive
        exact .single rfl (.killed turret alive)
      · exact .nil world
  | drone key =>
      simp only [World.shoot]
      split
      · rename_i drone hpart
        obtain ⟨device, found, hview⟩ := Roster.part?_eq_some.mp hpart
        split
        · rename_i up
          exact .single rfl (.ofChange found (.destroyed turret (Device.drone?_eq_some.mp hview) up))
        · exact .nil world
      · exact .nil world

theorem engage_deeds {world : World} {key : String} {device : Device} {turret : Turret}
    {target : Target} (found : world.devices.find? key = some device)
    (kind : device.equipment = .turret turret) (on : device.enabled = true)
    (armed : turret.active (world.alarmLevel = .red) = true)
    (aim : world.target? device.position turret = some target) :
    Deeds {.turrets} world (engage key turret target world).2
      (engage key turret target world).1 := by
  simp only [engage]
  split
  · rename_i early
    exact .single rfl (.ofChange found (.held kind on armed aim early))
  · rename_i ready
    have hfired : Deed .turrets world
        (turret.announceLock key target.id ++ [.turretFired key target.id])
        (world.setEquipment key (.turret { turret.track target.id with lockTicks := 0 })) :=
      .ofChange found (.fired kind on armed aim rfl (UInt32.not_lt.mp ready))
    simpa using Deeds.cons (Set.mem_singleton _) hfired (shoot_deeds _ key target)

theorem turretTurn_deeds {world : World} {alarmRed : Bool} (key : String)
    (hred : alarmRed = decide (world.alarmLevel = .red)) :
    Deeds {.turrets} world (turretTurn alarmRed key world).2 (turretTurn alarmRed key world).1 := by
  subst hred
  unfold turretTurn
  split
  · rename_i device found
    split
    · rename_i turret on hview
      have kind := Device.turret?_eq_some.mp hview
      by_cases armed : turret.active (world.alarmLevel = .red) = true
      · rw [if_pos armed]
        cases aim : world.target? device.position turret with
        | none => exact .single rfl (.ofChange found (.released kind on))
        | some target => exact engage_deeds found kind on armed aim
      · rw [if_neg armed]
        exact .single rfl (.ofChange found (.released kind on))
    · exact .nil world
  · exact .nil world

/-- No turret changes the alarm. -/
theorem alarmLevel_of_turrets {world last : World} {occurrences : List Occurrence}
    (deeds : Deeds {.turrets} world occurrences last) : last.alarmLevel = world.alarmLevel :=
  deeds.alarmLevel_eq (by simp)

/-- The turns of the devices under given keys, one after the other. -/
def turns (alarmRed : Bool) (keys : List String) : Phase := inOrder (keys.map (turretTurn alarmRed))

theorem turns_deeds {alarmRed : Bool} (keys : List String) {world : World}
    (hred : alarmRed = decide (world.alarmLevel = .red)) :
    Deeds {.turrets} world (turns alarmRed keys world).2 (turns alarmRed keys world).1 := by
  unfold turns
  apply inOrder_deeds (P := fun next => next.alarmLevel = world.alarmLevel) _ _ rfl
  · intro other occurrences last deeds h
    exact (alarmLevel_of_turrets deeds).trans h
  · intro phase member other h
    obtain ⟨key, -, rfl⟩ := List.mem_map.mp member
    exact turretTurn_deeds key (by rw [hred, h])

theorem runTurrets_deeds (world : World) :
    Deeds {.turrets} world (runTurrets world).2 (runTurrets world).1 :=
  turns_deeds world.devices.keys rfl

/-! ## The player and the clock -/

theorem walk_deeds (level : Level) (world : World) :
    Deeds {.walk} world (walk level world).2 (walk level world).1 := by
  unfold walk
  split
  · rename_i free
    simp only [Bool.and_eq_true, Bool.not_eq_true'] at free
    obtain ⟨alive, inside⟩ := free
    split
    · rename_i cell _
      split
      · rename_i door _
        exact .single rfl (.blocked door.id alive)
      · simp only [stepTo]
        split
        · exact .cons (Set.mem_singleton _) (.moved cell alive) (.single rfl (.exited alive inside))
        · exact .single rfl (.moved cell alive)
    · split
      · exact .single rfl (.exited alive inside)
      · exact .nil world
  · exact .nil world

@[simp] theorem world_timeOut (limit : UInt64) (world : World) :
    (timeOut limit world).1 = world := rfl

theorem timeOut_deeds (limit : UInt64) (world : World) :
    Deeds {.clock} world (timeOut limit world).2 world := by
  simp only [timeOut]
  split
  · rename_i late
    exact .single rfl (.timedOut late)
  · exact .nil world

end Tick

end Infiltration
