import Infiltration.Proofs.Run.Shot
import Infiltration.Proofs.Tick.Flight

/-! # Drones on patrol

In a run a drone goes its rounds by the clock, until a shot ends them. What is left of it then stays
where it is. -/

namespace Infiltration

attribute [local irreducible] Mission.opening Mission.closing

/-! ## One tick -/

namespace Engine

variable {engine : Engine} {key : String} {drone : Drone} {start : Point} {ticks : ℕ}
  (labelled : engine.world.devices.Labelled)

include labelled

/-- Script lines and timers let a drone fly, and the patrol takes it on by a tick. -/
theorem flight?_opened (way : 2 ≤ drone.path.length) (up : engine.world.devices.DroneUp key)
    (flying : engine.world.devices.part? key Device.flight? =
      some (drone.placeAfter start ticks, drone.after ticks)) :
    engine.opened.1.devices.DroneUp key ∧
      engine.opened.1.devices.part? key Device.flight? =
        some (drone.placeAfter start (ticks + 1), drone.after (ticks + 1)) := by
  have hwoken : Deeds (Tick.scripted (engine.mission.cuesAt engine.world.tick) ∪ {.timers})
      engine.world (engine.cued.2 ++ engine.woken.2) engine.woken.1 :=
    (engine.cued_deeds.mono Set.subset_union_left).trans
      ((woken_deeds labelled).mono Set.subset_union_right)
  obtain ⟨device, found, up⟩ := hwoken.droneUp up fun turret =>
    hwoken.not_told (by simp [Occurrence.stage, Tick.scripted])
  have hflight := Roster.part?_of_view_eq (hwoken.flights_eq (by simp [Tick.scripted])) key
  rw [flying, Roster.part?, found, Option.bind_some] at hflight
  have moved : engine.opened.1.devices.find? key = some device.patrol := by
    simp [world_opened, Tick.moveDrones, Roster.map, Roster.find?_mapEntries, found]
  refine ⟨⟨device.patrol, moved, by rwa [device.upDrone_patrol]⟩, ?_⟩
  rw [Roster.part?, moved, Option.bind_some, Device.flight?_patrol way up hflight]

theorem flight?_closed (way : 2 ≤ drone.path.length) (up : engine.world.devices.DroneUp key)
    (flying : engine.world.devices.part? key Device.flight? =
      some (drone.placeAfter start ticks, drone.after ticks)) :
    engine.closed.1.devices.part? key Device.flight? =
      some (drone.placeAfter start (ticks + 1), drone.after (ticks + 1)) := by
  have hflights := (closing_deeds labelled).flights_eq (by simp [Stage.late])
  rw [Roster.part?_of_view_eq hflights, (flight?_opened labelled way up flying).2]

/-- A drone that no turret destroys in a tick stays up. -/
theorem droneUp_closed (up : engine.world.devices.DroneUp key)
    (intact : ∀ turret, .droneDestroyed key turret ∉ engine.occurrences) :
    engine.closed.1.devices.DroneUp key :=
  (play_deeds labelled).droneUp up intact

end Engine

/-! ## The whole run -/

/-- A frame tells that a drone was destroyed. -/
def Frame.Wrecks (drone : String) (frame : Frame) : Prop :=
  ∃ event ∈ frame.events, ∃ turret, event.IsWreck drone turret

/-- How a drone is after a number of ticks on patrol, which depends on nothing but how it was authored. -/
structure Device.Patrolled (authored : Device) (drone : Drone) (ticks : ℕ) (device : Device)
    (flown : Drone) : Prop where
  kind : device.equipment = .drone flown
  pathIndex_eq : flown.pathIndex =
    (drone.pathIndex + (drone.stepTimer.toNat + ticks) / max 1 drone.stepInterval.toNat) %
      drone.path.length
  stepTimer_eq : flown.stepTimer.toNat =
    (drone.stepTimer.toNat + ticks) % max 1 drone.stepInterval.toNat
  waiting : (drone.stepTimer.toNat + ticks) / max 1 drone.stepInterval.toNat = 0 →
    device.position = authored.position
  moving : (drone.stepTimer.toNat + ticks) / max 1 drone.stepInterval.toNat ≠ 0 →
    drone.path[flown.pathIndex]? = some device.position

/-- How a drone fares in a run: until it is destroyed it patrols by the clock, and from then on nothing
changes but its tag. -/
structure RunResult.Patrols (key : String) (authored : Device) (drone : Drone) (result : RunResult) :
    Prop where
  patrols : ∀ (tick : ℕ) (frame : Frame), result.frames[tick]? = some frame →
    (∀ earlier < tick, ∀ before, result.frames[earlier]? = some before → ¬before.Wrecks key) →
      ∃ device flown, frame.snapshot.devices.find? key = some device ∧
        authored.Patrolled drone (tick + 1) device flown ∧
          (¬frame.Wrecks key → device.enabled = true ∧ flown.alive = true)
  rests : ∀ (tick : ℕ) (frame : Frame), result.frames[tick]? = some frame → frame.Wrecks key →
    ∃ device, frame.snapshot.devices.find? key = some device ∧ device.Wrecked ∧
      ∀ (later : ℕ) (after : Frame), tick < later → result.frames[later]? = some after →
        ∃ tag, after.snapshot.devices.find? key = some { device with tag }

theorem Device.Patrolled.of_flight? {device authored : Device} {drone : Drone} {ticks : ℕ}
    (way : 2 ≤ drone.path.length)
    (flying : device.flight? = some (drone.placeAfter authored.position ticks, drone.after ticks)) :
    ∃ flown, authored.Patrolled drone ticks device flown := by
  obtain ⟨flown, hflown, heq⟩ := Option.map_eq_some_iff.mp flying
  obtain ⟨hplace, hafter⟩ := Prod.mk.inj heq
  have hindex : flown.pathIndex = (drone.after ticks).pathIndex := by rw [← hafter]
  have htimer : flown.stepTimer = (drone.after ticks).stepTimer := by rw [← hafter]
  refine ⟨flown, Device.drone?_eq_some.mp hflown, hindex, ?_, ?_, ?_⟩
  · rw [htimer, Drone.toNat_stepTimer_after, Drone.beat]
  · intro waiting
    rw [hplace, Drone.placeAfter, Drone.strides, Drone.beat, if_pos waiting]
  · intro moving
    have inside : (drone.after ticks).pathIndex < drone.path.length :=
      Drone.pathIndex_after_lt (Nat.zero_lt_of_lt way)
    rw [hplace, hindex, Drone.placeAfter, Drone.strides, Drone.beat, if_neg moving,
      List.getD_eq_getElem?_getD, List.getElem?_eq_getElem inside, Option.getD_some]

namespace Mission

variable {mission : Mission} {key : String} {step : ℕ}

/-- The frame of a step tells what the step tells. -/
theorem wrecks_scene : (mission.after step).scene.Wrecks key ↔
    ∃ turret, .droneDestroyed key turret ∈ (mission.after step).occurrences := by
  have hentries : (mission.after step).scene.Wrecks key ↔
      ∃ occurrence ∈ (mission.after step).occurrences, ∃ turret,
        occurrence = .droneDestroyed key turret :=
    exists_enterFrom_iff (fun occurrence id => by simp only [Occurrence.isWreck_event]) _ _
  refine hentries.trans ?_
  constructor
  · rintro ⟨_, told, turret, rfl⟩
    exact ⟨turret, told⟩
  · rintro ⟨turret, told⟩
    exact ⟨_, told, turret, rfl⟩

variable {authored : Device} {drone : Drone}
  (found : (World.start mission.level).devices.find? key = some authored)
  (duty : authored.OnPatrol drone)

include found duty

/-- As long as it was not destroyed, a drone is up and as far as the steps have brought it. -/
theorem flight?_after {steps : ℕ} (h : steps ≤ mission.duration)
    (intact : ∀ step < steps, ¬(mission.after step).scene.Wrecks key) :
    (mission.after steps).world.devices.DroneUp key ∧
      (mission.after steps).world.devices.part? key Device.flight? =
        some (drone.placeAfter authored.position steps, drone.after steps) := by
  induction steps with
  | zero =>
      refine ⟨⟨authored, found, duty.upDrone⟩, ?_⟩
      exact Roster.part?_eq_some.mpr ⟨authored, found, duty.flight?_eq⟩
  | succ steps ih =>
      obtain ⟨up, flying⟩ := ih (Nat.le_of_lt h) fun step hstep =>
        intact step (Nat.lt_succ_of_lt hstep)
      have labelled := mission.labelled_after steps
      have hintact := intact steps (Nat.lt_succ_self steps)
      rw [wrecks_scene, not_exists] at hintact
      rw [mission.devices_after_succ h]
      exact ⟨Engine.droneUp_closed labelled up hintact,
        Engine.flight?_closed labelled duty.way up flying⟩

/-- The frame in which a drone is destroyed shows it where its patrol has brought it. -/
theorem patrolled_scene (h : step < mission.duration)
    (intact : ∀ earlier < step, ¬(mission.after earlier).scene.Wrecks key) :
    ∃ device flown, (mission.after step).scene.snapshot.devices.find? key = some device ∧
      authored.Patrolled drone (step + 1) device flown ∧
        (¬(mission.after step).scene.Wrecks key → device.enabled = true ∧ flown.alive = true) := by
  have labelled := mission.labelled_after step
  obtain ⟨up, flying⟩ := flight?_after found duty (Nat.le_of_lt h) intact
  obtain ⟨device, hdevice, hflight⟩ :=
    Roster.part?_eq_some.mp (Engine.flight?_closed labelled duty.way up flying)
  obtain ⟨flown, patrolled⟩ := Device.Patrolled.of_flight? duty.way hflight
  refine ⟨device, flown, hdevice, patrolled, fun whole => ?_⟩
  rw [wrecks_scene, not_exists] at whole
  obtain ⟨other, hother, hup⟩ := Engine.droneUp_closed labelled up whole
  obtain rfl := Option.some.inj (hdevice.symm.trans hother)
  obtain ⟨on, flown', kind, alive⟩ := Device.upDrone_eq_true.mp hup
  obtain rfl := Equipment.drone.inj (patrolled.kind.symm.trans kind)
  exact ⟨on, alive⟩

omit found duty

/-- What is left of a drone stays as it is, but for its tag. -/
theorem find?_of_wrecked {steps : ℕ} {device : Device} (hle : step ≤ steps)
    (hdevice : (mission.after step).world.devices.find? key = some device)
    (wrecked : device.Wrecked) :
    ∃ tag, (mission.after steps).world.devices.find? key = some { device with tag } := by
  apply mission.after_le_induction
    (P := fun engine => ∃ tag, engine.world.devices.find? key = some { device with tag }) hle _
    ⟨device.tag, hdevice⟩
  rintro engine labelled ⟨tag, hbefore⟩ _
  rw [devices_play]
  obtain ⟨other, hnext⟩ := (Engine.play_deeds labelled).find?_of_wrecked hbefore wrecked
  exact ⟨other, hnext⟩

theorem rests_scene (h : step < mission.duration) (wrecks : (mission.after step).scene.Wrecks key) :
    ∃ device, (mission.after step).scene.snapshot.devices.find? key = some device ∧ device.Wrecked ∧
      ∀ later, step < later → later < mission.duration →
        ∃ tag, (mission.after later).scene.snapshot.devices.find? key = some { device with tag } := by
  obtain ⟨turret, told⟩ := wrecks_scene.mp wrecks
  obtain ⟨-, device, hdevice, wrecked⟩ :=
    (Engine.play_deeds (mission.labelled_after step)).down_of_told told
  refine ⟨device, hdevice, wrecked, fun later hlt hlater => ?_⟩
  rw [← mission.devices_after_succ h] at hdevice
  obtain ⟨tag, hnext⟩ := find?_of_wrecked (Nat.succ_le_succ (Nat.le_of_lt hlt)) hdevice wrecked
  rw [Engine.devices_scene, ← mission.devices_after_succ hlater]
  exact ⟨tag, hnext⟩

include found duty in
theorem patrols_duration :
    (RunResult.ofEngine (mission.after mission.duration)).Patrols key authored drone := by
  constructor
  · intro step frame hstep intact
    obtain ⟨h, rfl⟩ := mission.getElem?_frames hstep
    apply patrolled_scene found duty h
    intro earlier hearlier
    exact intact earlier hearlier _ (mission.getElem?_frames_eq_some (hearlier.trans h))
  · intro step frame hstep wrecks
    obtain ⟨h, rfl⟩ := mission.getElem?_frames hstep
    obtain ⟨device, hdevice, wrecked, hrest⟩ := rests_scene h wrecks
    refine ⟨device, hdevice, wrecked, fun later after hlt hlater => ?_⟩
    obtain ⟨hlate, rfl⟩ := mission.getElem?_frames hlater
    exact hrest later hlt hlate

end Mission

/-- In every run a drone on patrol goes its rounds by the clock until it is destroyed. -/
theorem simulate_patrols (level : Level) (cues : List Script.Cue) (config : Config) {key : String}
    {authored : Device} {drone : Drone}
    (found : (World.start level).devices.find? key = some authored)
    (duty : authored.OnPatrol drone) :
    (simulate level cues config).Patrols key authored drone := by
  rw [RunResult.simulate_eq]
  exact (Mission.of level cues config).patrols_duration found duty

/-- A drone on a path of three cells, beside which it starts. -/
def scout : Device where
  id := "scout"
  position := ⟨0, 2⟩
  equipment := .drone { path := [⟨0, 1⟩, ⟨1, 1⟩, ⟨2, 1⟩], pathIndex := 1, stepInterval := 2 }

/-- The drone in a yard with a turret in range of its path. -/
def yard : Level where
  id := "yard"
  map := { width := 8, height := 3 }
  entry := ⟨7, 0⟩
  exit := ⟨7, 2⟩
  playerPath := [⟨7, 0⟩]
  devices := [scout, .newTurret "gun" ⟨0, 0⟩ 3 1 .always]
  networkScope := ["gun"]
  constraints := { maxLines := 4, maxCommands := 4, maxDelay := 4, tickLimit := 7 }

/-- The turret is told to take the drone on the sixth tick. -/
def yardCues : List Script.Cue :=
  [{ tick := 5, line := 1, raw := "turret(\"gun\").retarget(\"scout\")",
     command := .retargetTurret "gun" "scout" }]

theorem simulate_yard_patrols :
    (World.start yard).devices.find? "scout" = some scout ∧
      scout.OnPatrol { path := [⟨0, 1⟩, ⟨1, 1⟩, ⟨2, 1⟩], pathIndex := 1, stepInterval := 2 } ∧
        (simulate yard yardCues { storeDigests := false }).frames.map
            (fun frame => (frame.snapshot.devices.find? "scout").map
              fun device => (device.enabled, device.position)) =
          [some (true, ⟨0, 2⟩), some (true, ⟨2, 1⟩), some (true, ⟨2, 1⟩), some (true, ⟨0, 1⟩),
            some (true, ⟨0, 1⟩), some (false, ⟨1, 1⟩), some (false, ⟨1, 1⟩), some (false, ⟨1, 1⟩)] ∧
          (simulate yard yardCues { storeDigests := false }).Patrols "scout" scout
            { path := [⟨0, 1⟩, ⟨1, 1⟩, ⟨2, 1⟩], pathIndex := 1, stepInterval := 2 } := by
  have found : (World.start yard).devices.find? "scout" = some scout := by decide +kernel
  have duty : scout.OnPatrol
      { path := [⟨0, 1⟩, ⟨1, 1⟩, ⟨2, 1⟩], pathIndex := 1, stepInterval := 2 } :=
    ⟨rfl, rfl, rfl, by decide, by decide, by decide⟩
  exact ⟨found, duty, by decide +kernel,
    simulate_patrols yard yardCues { storeDigests := false } found duty⟩

end Infiltration
