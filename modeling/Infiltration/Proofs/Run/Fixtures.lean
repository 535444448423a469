import Infiltration.Proofs.Level
import Infiltration.Proofs.Run.Parts

/-! # What a run leaves as the level has it

No device comes, goes or becomes another. Only drones move, only cameras and drones are switched, and
what a device is built like stays. Of the alarms only the first is ever touched, and it is the one that
every snapshot goes by. -/

namespace Infiltration

attribute [local irreducible] Mission.opening Mission.closing

/-! ## Fixtures -/

/-- The kind of a device, with all of its equipment that stays as the level has it. -/
inductive Build where
  | camera (range : UInt32) (facing : Facing)
  | turret (range lockDelay : UInt32) (trigger : Trigger)
  | drone (path : List Point) (stepInterval : UInt32)
  | door (closesOnRed : Bool)
  | alarm (escalation : UInt64)
  | terminal

def Equipment.build : Equipment → Build
  | .camera part => .camera part.range part.facing
  | .turret part => .turret part.range part.lockDelay part.trigger
  | .drone part => .drone part.path part.stepInterval
  | .door part => .door part.closesOnRed
  | .alarm part => .alarm part.escalation
  | .terminal => .terminal

/-- What of a device stays: a drone has no fixed place, and a camera or drone no fixed switch. -/
structure Fixture where
  id : String
  place : Option Point
  switch : Option Bool
  build : Build

def Device.fixture (device : Device) : Fixture where
  id := device.id
  place := if device.type = .drone then none else some device.position
  switch := if device.type = .camera ∨ device.type = .drone then none else some device.enabled
  build := device.equipment.build

theorem Device.fixture_patrol (device : Device) : device.patrol.fixture = device.fixture := by
  unfold patrol
  split
  · rename_i drone kind
    split
    · split <;> simp [fixture, type, Equipment.type, Equipment.build, kind]
    · rfl
  · rfl

theorem Turret.build_track (turret : Turret) (target : String) :
    (Equipment.turret (turret.track target)).build = (Equipment.turret turret).build := by
  unfold track
  split <;> rfl

theorem Device.Deed.fixture_eq {world : World} {key : String} {stage : Stage}
    {device device' : Device} {occurrences : List Occurrence}
    (deed : Deed world key stage device occurrences device') : device'.fixture = device.fixture := by
  cases deed with
  | patrolled => exact device.fixture_patrol
  | tagged => rfl
  | held kind => simp [fixture, type, Equipment.type, Turret.build_track, kind]
  | @fired _ turret _ target kind _ _ _ aimed =>
      simp only [fixture, type, Equipment.type, kind, ← turret.build_track target.id, ← aimed]
      rfl
  | _ => simp_all [fixture, type, Equipment.type, Equipment.build, Turret.retarget, Turret.release]

/-- Fixtures tell the kind. -/
theorem Device.type_of_fixture_eq {a b : Device} (h : a.fixture = b.fixture) : a.type = b.type := by
  have hbuild : a.equipment.build = b.equipment.build := congrArg Fixture.build h
  unfold type
  cases ha : a.equipment <;> cases hb : b.equipment <;>
    simp_all [Equipment.build, Equipment.type]

theorem Device.position_of_fixture_eq {a b : Device} (h : a.fixture = b.fixture)
    (fixed : a.type ≠ .drone) : a.position = b.position := by
  have hplace := congrArg Fixture.place h
  simpa [fixture, fixed, ← type_of_fixture_eq h] using hplace

/-! ## Alarms -/

/-- All alarms under their keys, in the order of the devices. -/
def Roster.alarms (roster : Roster) : List (String × Alarm) :=
  roster.entries.filterMap fun entry => entry.2.alarm?.map fun alarm => (entry.1, alarm)

theorem Roster.head?_alarms (roster : Roster) : roster.alarms.head? = roster.alarmEntry? :=
  List.head?_filterMap

theorem Roster.alarmLevel_eq (roster : Roster) :
    roster.alarmLevel = (roster.alarms.head?.map fun entry => entry.2.level).getD .green := by
  rw [head?_alarms, alarmLevel, alarm?]
  cases roster.alarmEntry? <;> rfl

theorem Roster.alarms_of_view_eq {a b : Roster} (h : a.view Device.alarm? = b.view Device.alarm?) :
    a.alarms = b.alarms := by
  have hview (roster : Roster) : roster.alarms =
      (roster.view Device.alarm?).filterMap fun entry => entry.2.map fun alarm => (entry.1, alarm) := by
    rw [alarms, view, List.filterMap_map]
    rfl
  rw [hview, hview, h]

/-- A change of the first alarm leaves the others as they are. -/
theorem Roster.tail_alarms_modify {roster : Roster} {key : String} {alarm alarm' : Alarm}
    (first : roster.alarmEntry? = some (key, alarm)) :
    (roster.modify key fun device => { device with equipment := .alarm alarm' }).alarms.tail =
      roster.alarms.tail := by
  obtain ⟨front, ⟨other, device⟩, back, hentries, hfirst, hfront⟩ :=
    List.findSome?_eq_some_iff.mp first
  obtain ⟨found, halarm, hentry⟩ := Option.map_eq_some_iff.mp hfirst
  cases hentry
  have hnone : (front.filterMap fun entry =>
      entry.2.alarm?.map fun alarm => (entry.1, alarm)) = [] :=
    List.filterMap_eq_nil_iff.mpr hfront
  have hchanged : Device.alarm? { device with equipment := .alarm alarm' } = some alarm' := rfl
  rw [alarms, alarms, entries_modify_of_append hentries, hentries, List.filterMap_append,
    List.filterMap_append, hnone, List.nil_append, List.nil_append]
  simp only [List.filterMap_cons, halarm, hchanged, Option.map_some, List.tail_cons]

/-! ## Deeds -/

namespace Deed

variable {stage : Stage} {world next : World} {occurrences : List Occurrence}

/-- A deed changes no device, or one by a deed of its own, or how far the first alarm has come. -/
theorem devices_cases (deed : Deed stage world occurrences next) :
    next.devices = world.devices ∨
      (∃ key device device', world.devices.find? key = some device ∧
        device.Deed world key stage occurrences device' ∧
          next.devices = world.devices.modify key fun _ => device') ∨
      ∃ key alarm alarm', world.devices.alarmEntry? = some (key, alarm) ∧
        alarm'.escalation = alarm.escalation ∧
          next.devices =
            world.devices.modify key fun device => { device with equipment := .alarm alarm' } := by
  cases deed with
  | device found deed => exact .inr (.inl ⟨_, _, _, found, deed, rfl⟩)
  | @delayed _ key alarm _ ticks first =>
      have hescalation : (alarm.delay ticks).escalation = alarm.escalation := by
        unfold Alarm.delay
        split <;> rfl
      exact .inr (.inr ⟨key, alarm, _, first, hescalation, rfl⟩)
  | @alerted _ key alarm first calm =>
      have hescalation : (alarm.alert world.tick).1.escalation = alarm.escalation := by
        simp [Alarm.alert, calm]
      exact .inr (.inr ⟨key, alarm, _, first, hescalation, rfl⟩)
  | @reddened _ key alarm first => exact .inr (.inr ⟨key, alarm, alarm.redden, first, rfl, rfl⟩)
  | _ => exact .inl rfl

theorem fixtures_eq (deed : Deed stage world occurrences next) :
    next.devices.view Device.fixture = world.devices.view Device.fixture := by
  obtain h | ⟨key, device, device', found, deed, h⟩ | ⟨key, alarm, alarm', first, same, h⟩ :=
    deed.devices_cases
  · rw [h]
  · rw [h]
    apply Roster.view_modify_of_hidden
    intro other hother
    obtain rfl := Option.some.inj (found.symm.trans hother)
    exact deed.fixture_eq
  · rw [h]
    apply Roster.view_modify_of_hidden
    intro device hdevice
    obtain ⟨other, hother, kind⟩ := Roster.alarmEntry?_eq_some first
    obtain rfl := Option.some.inj (hdevice.symm.trans hother)
    simp [Device.fixture, Device.type, Equipment.type, Equipment.build, kind, same]

theorem tail_alarms_eq (deed : Deed stage world occurrences next) :
    next.devices.alarms.tail = world.devices.alarms.tail := by
  obtain h | ⟨key, device, device', found, deed, h⟩ | ⟨key, alarm, alarm', first, -, h⟩ :=
    deed.devices_cases
  · rw [h]
  · rw [h, Roster.alarms_of_view_eq]
    apply Roster.view_modify_of_hidden
    intro other hother
    obtain rfl := Option.some.inj (found.symm.trans hother)
    exact deed.alarm?_eq
  · rw [h, Roster.tail_alarms_modify first]

end Deed

namespace Deeds

variable {stages : Set Stage} {world last : World} {occurrences : List Occurrence}

theorem fixtures_eq (deeds : Deeds stages world occurrences last) :
    last.devices.view Device.fixture = world.devices.view Device.fixture :=
  deeds.keeps (P := fun next => next.devices.view Device.fixture = world.devices.view Device.fixture)
    (fun _ deed h => deed.fixtures_eq.trans h) rfl

theorem tail_alarms_eq (deeds : Deeds stages world occurrences last) :
    last.devices.alarms.tail = world.devices.alarms.tail :=
  deeds.keeps (P := fun next => next.devices.alarms.tail = world.devices.alarms.tail)
    (fun _ deed h => deed.tail_alarms_eq.trans h) rfl

end Deeds

/-! ## The whole run -/

/-- How the devices of a level enter a run. -/
structure Level.Furnishes (level : Level) (roster : Roster) : Prop where
  keys : roster.keys = (level.devices.map Device.id).eraseDups
  last : ∀ id, roster.find? id = level.devices.reverse.find? fun device => device.id = id
  sound : level.fault? = none →
    roster.entries = level.devices.map fun device => (device.id, device)

/-- A roster has what another started with: devices under the same keys in the same order, each under its
id and with its fixture, and all alarms but the first. -/
structure Roster.KeepsOf (start roster : Roster) : Prop where
  keys : roster.keys = start.keys
  labelled : ∀ key device, roster.find? key = some device → device.id = key
  fixtures : ∀ key before after, start.find? key = some before → roster.find? key = some after →
    after.fixture = before.fixture
  alarms : roster.alarms.tail = start.alarms.tail

structure RunResult.KeepsFixtures (level : Level) (result : RunResult) : Prop where
  start : level.Furnishes (World.start level).devices
  kept : ∀ frame ∈ result.frames, (World.start level).devices.KeepsOf frame.snapshot.devices
  alarmLevel : ∀ frame ∈ result.frames, frame.snapshot.alarmLevel =
    (frame.snapshot.devices.alarms.head?.map fun entry => entry.2.level).getD .green

theorem Level.furnishes_start (level : Level) : level.Furnishes (World.start level).devices where
  keys := Roster.keys_ofDevices level.devices
  last := Roster.find?_ofDevices level.devices
  sound sound := Roster.entries_ofDevices (nodup_ids sound)

theorem Roster.KeepsOf.of_view_eq {start roster : Roster} (labelled : roster.Labelled)
    (fixtures : roster.view Device.fixture = start.view Device.fixture)
    (alarms : roster.alarms.tail = start.alarms.tail) : start.KeepsOf roster where
  keys := keys_of_view_eq fixtures
  labelled := labelled
  fixtures := by
    intro key before after hbefore hafter
    obtain ⟨other, hother, hsame⟩ := find?_of_view_eq fixtures hafter
    obtain rfl := Option.some.inj (hbefore.symm.trans hother)
    exact hsame.symm
  alarms := alarms

namespace Mission

variable (mission : Mission)

theorem fixtures_after (steps : ℕ) :
    (mission.after steps).world.devices.view Device.fixture =
      (World.start mission.level).devices.view Device.fixture := by
  apply mission.after_induction
    (P := fun engine => engine.world.devices.view Device.fixture = _) rfl
  intro engine labelled h _
  rw [devices_play, (Engine.play_deeds labelled).fixtures_eq, h]

theorem tail_alarms_after (steps : ℕ) :
    (mission.after steps).world.devices.alarms.tail =
      (World.start mission.level).devices.alarms.tail := by
  apply mission.after_induction (P := fun engine => engine.world.devices.alarms.tail = _) rfl
  intro engine labelled h _
  rw [devices_play, (Engine.play_deeds labelled).tail_alarms_eq, h]

theorem keepsFixtures_duration :
    (RunResult.ofEngine (mission.after mission.duration)).KeepsFixtures mission.level where
  start := mission.level.furnishes_start
  kept := by
    intro frame member
    obtain ⟨step, h, rfl⟩ := mission.mem_frames member
    rw [Engine.devices_scene, ← mission.devices_after_succ h]
    exact .of_view_eq (mission.labelled_after _) (mission.fixtures_after _)
      (mission.tail_alarms_after _)
  alarmLevel := by
    intro frame member
    obtain ⟨step, -, rfl⟩ := mission.mem_frames member
    exact Roster.alarmLevel_eq _

end Mission

/-- Every run leaves the devices of its level where, what and how they are built, and goes by the first
alarm. -/
theorem simulate_keepsFixtures (level : Level) (cues : List Script.Cue) (config : Config) :
    (simulate level cues config).KeepsFixtures level := by
  rw [RunResult.simulate_eq]
  exact (Mission.of level cues config).keepsFixtures_duration

end Infiltration
