import Infiltration.Proofs.Level
import Infiltration.Proofs.Run.Aim
import Infiltration.Proofs.Run.Motion

/-! # What a run counts and measures

On a sound level everything stays on the map, so no distance outgrows a word of 32 bits. A drone's
timer stays below its interval and a turret's hold below its delay, a place on a path among the cells
of the path and the clock at its limit or below, so no count does either. -/

namespace Infiltration

attribute [local irreducible] Mission.opening Mission.closing

/-! ## On the map -/

/-- Coordinates on a map are not negative, so two of its cells are less than a word apart. -/
theorem LevelMap.steps_lt {map : LevelMap} {a b : Point} (ha : map.contains a = true)
    (hb : map.contains b = true) : a.steps b < UInt32.size := by
  simp only [contains, Bool.and_eq_true, decide_eq_true_eq] at ha hb
  have hwidth := map.width.toInt_lt
  have hheight := map.height.toInt_lt
  have hsize : UInt32.size = 2 ^ 32 := rfl
  unfold Point.steps
  omega

namespace Level

variable {level : Level} (sound : level.fault? = none)

include sound

theorem contains_entry : level.map.contains level.entry = true :=
  contains_landmark sound (.entry, level.entry) (by simp [landmarks])

theorem contains_of_mem_path {cell : Point} (member : cell ∈ level.playerPath) :
    level.map.contains cell = true :=
  contains_landmark sound (.playerPath, cell) (by simp [landmarks, member])

theorem contains_position {device : Device} (member : device ∈ level.devices) :
    level.map.contains device.position = true := by
  apply contains_landmark sound (.device device.id, device.position)
  simp only [landmarks, List.cons_append, List.mem_cons, List.mem_append, List.mem_flatMap]
  exact .inr (.inr (.inr ⟨device, member, List.mem_cons_self⟩))

theorem contains_of_mem_patrol {device : Device} (member : device ∈ level.devices) {drone : Drone}
    (kind : device.drone? = some drone) {cell : Point} (on_path : cell ∈ drone.path) :
    level.map.contains cell = true := by
  apply contains_landmark sound (.patrol device.id, cell)
  simp only [landmarks, List.cons_append, List.mem_cons, List.mem_append, List.mem_flatMap]
  refine .inr (.inr (.inr ⟨device, member, List.mem_cons_of_mem _ ?_⟩))
  simpa [kind] using on_path

end Level

/-! ## Room to count -/

/-- A drone's place on its path is one that the path has, and neither the timer of a drone nor the hold
of a turret has come to the largest word. -/
def Equipment.Poised : Equipment → Prop
  | .drone craft => craft.pathIndex < craft.path.length ∧ craft.stepTimer.toNat < UInt32.size - 1
  | .turret gun => gun.lockTicks.toNat < UInt32.size - 1
  | _ => True

instance : (equipment : Equipment) → Decidable equipment.Poised
  | .drone _ => inferInstanceAs (Decidable (_ ∧ _))
  | .turret _ => inferInstanceAs (Decidable (_ < _))
  | .camera _ | .door _ | .alarm _ | .terminal => inferInstanceAs (Decidable True)

def Level.Poised (level : Level) : Prop := ∀ device ∈ level.devices, device.equipment.Poised

instance (level : Level) : Decidable level.Poised := inferInstanceAs (Decidable (∀ _ ∈ _, _))

/-- A device stands on the map, and so does the path of a drone; what it counts has room for one more. -/
structure Device.Within (map : LevelMap) (device : Device) : Prop where
  place : map.contains device.position = true
  patrol : ∀ drone, device.equipment = .drone drone → ∀ cell ∈ drone.path, map.contains cell = true
  poised : device.equipment.Poised

/-- A player stands on the map, at a place that the path has. -/
structure Player.Within (level : Level) (player : Player) : Prop where
  place : level.map.contains player.position = true
  index : player.pathIndex < level.playerPath.length

structure World.Within (level : Level) (world : World) : Prop where
  player : world.player.Within level
  devices : ∀ key device, world.devices.find? key = some device → device.Within level.map

/-- Wherever somebody or something stands. -/
def World.places (world : World) : List Point :=
  world.player.position :: world.devices.devices.map Device.position

namespace World.Within

variable {level : Level} {world : World} (within : world.Within level)

include within

theorem contains_place {place : Point} (member : place ∈ world.places) :
    level.map.contains place = true := by
  rcases List.mem_cons.mp member with rfl | member
  · exact within.player.place
  · obtain ⟨device, hdevice, rfl⟩ := List.mem_map.mp member
    obtain ⟨⟨key, _⟩, hentry, rfl⟩ := List.mem_map.mp hdevice
    exact (within.devices key _ (Roster.find?_eq_some.mpr hentry)).place

theorem steps_lt {a b : Point} (ha : a ∈ world.places) (hb : b ∈ world.places) :
    a.steps b < UInt32.size :=
  LevelMap.steps_lt (within.contains_place ha) (within.contains_place hb)

end World.Within

theorem World.Within.start {level : Level} (sound : level.fault? = none) (poised : level.Poised) :
    (World.start level).Within level where
  player := ⟨level.contains_entry sound, List.length_pos_of_ne_nil (level.playerPath_ne_nil sound)⟩
  devices := by
    intro key device found
    obtain ⟨member, -⟩ := Roster.mem_of_find?_ofDevices found
    refine ⟨level.contains_position sound member, ?_, poised device member⟩
    intro drone kind cell on_path
    exact level.contains_of_mem_patrol sound member (Device.drone?_eq_some.mpr kind) on_path

/-! ## Deeds -/

/-- A patrol either counts on, below the interval, or starts its count over and takes a cell of the
path. -/
theorem Device.Within.patrolled {map : LevelMap} {device : Device} (within : device.Within map) :
    device.patrol.Within map := by
  unfold Device.patrol
  split
  · rename_i drone kind
    obtain ⟨index, timer⟩ : drone.pathIndex < drone.path.length ∧
        drone.stepTimer.toNat < UInt32.size - 1 := by
      have poised := within.poised
      rwa [kind] at poised
    have inside := within.patrol drone kind
    split
    · split
      · rename_i early
        refine ⟨within.place, by rintro _ ⟨⟩; exact inside, index, ?_⟩
        have hinterval := drone.stepInterval.toNat_lt_size
        rw [UInt32.lt_iff_toNat_lt] at early
        exact Nat.lt_of_lt_of_le early (Nat.le_sub_one_of_lt hinterval)
      · have hnext : drone.nextIndex < drone.path.length := by
          rw [Drone.nextIndex_of_lt index]
          exact Nat.mod_lt _ (Nat.zero_lt_of_lt index)
        have hzero : (0 : UInt32).toNat < UInt32.size - 1 := by decide
        refine ⟨?_, by rintro _ ⟨⟩; exact inside, hnext, hzero⟩
        simp only [List.getD_eq_getElem?_getD, List.getElem?_eq_getElem hnext, Option.getD_some]
        exact inside _ (List.getElem_mem hnext)
    · exact within
  · exact within

/-- A turret holds a target for less than its delay, or starts over. -/
theorem Device.Deed.within {map : LevelMap} {world : World} {key : String} {stage : Stage}
    {device device' : Device} {occurrences : List Occurrence}
    (deed : Deed world key stage device occurrences device') (within : device.Within map) :
    device'.Within map := by
  obtain ⟨place, patrol, poised⟩ := within
  cases deed with
  | patrolled => exact Device.Within.patrolled ⟨place, patrol, poised⟩
  | tagged => exact ⟨place, patrol, poised⟩
  | @held _ turret _ _ _ _ _ early =>
      refine ⟨place, by simp, ?_⟩
      have hdelay := turret.lockDelay.toNat_lt_size
      rw [UInt32.lt_iff_toNat_lt] at early
      exact Nat.lt_of_lt_of_le early (Nat.le_sub_one_of_lt hdelay)
  | @destroyed _ drone _ kind =>
      rw [kind] at poised
      exact ⟨place, by rintro _ ⟨⟩; exact patrol drone kind, poised⟩
  | _ => exact ⟨place, by simp, by simp [Equipment.Poised, Turret.retarget, Turret.release]⟩

section Deeds

variable {level : Level} {world last : World} {occurrences : List Occurrence}

theorem Deed.within {stage : Stage} (deed : Deed stage world occurrences last) (h : stage ≠ .walk)
    (within : world.Within level) : last.Within level := by
  refine ⟨?_, fun key device' found => ?_⟩
  · rw [deed.player_unmoved h]
    exact ⟨within.player.place, within.player.index⟩
  · obtain ⟨device, hdevice, rfl | deed | ⟨alarm, alarm', -, rfl⟩⟩ := deed.find?_cases found
    · exact within.devices key device' hdevice
    · exact deed.within (within.devices key device hdevice)
    · exact ⟨(within.devices key device hdevice).place, by simp, trivial⟩

theorem Deeds.within {stages : Set Stage} (deeds : Deeds stages world occurrences last)
    (halted : .walk ∉ stages) (within : world.Within level) : last.Within level :=
  deeds.keeps (P := fun next => next.Within level)
    (fun admitted deed h => deed.within (by rintro rfl; exact halted admitted) h) within

end Deeds

theorem Player.Stride.within {level : Level} {devices : Roster} {player next : Player}
    {told : List Occurrence} (stride : player.Stride level devices told next)
    (inside : ∀ cell ∈ level.playerPath, level.map.contains cell = true)
    (within : player.Within level) : next.Within level := by
  have takes {cell : Point} (ahead : level.playerPath[player.pathIndex + 1]? = some cell) :
      level.map.contains cell = true ∧ player.pathIndex + 1 < level.playerPath.length :=
    ⟨inside cell (List.mem_of_getElem? ahead), (List.getElem?_eq_some_iff.mp ahead).1⟩
  cases stride with
  | moves _ ahead => exact ⟨(takes ahead).1, (takes ahead).2⟩
  | arrives _ ahead => exact ⟨(takes ahead).1, (takes ahead).2⟩
  | _ => exact ⟨within.place, within.index⟩

/-! ## One tick -/

/-- The worlds that a tick passes through: after each of its script lines, after each of its phases and
after each turn of a turret. -/
inductive Engine.Passes (engine : Engine) : World → Prop where
  | cued {front back} (cues : engine.mission.cuesAt engine.world.tick = front ++ back) :
      Passes engine (Tick.runCues front engine.world).1
  | woken : Passes engine engine.woken.1
  | opened : Passes engine engine.opened.1
  | turned {front back} (keys : engine.escalated.1.devices.keys = front ++ back) :
      Passes engine (Tick.turns engine.red front engine.escalated.1).1
  | closed : Passes engine engine.closed.1

/-- In a tick all stands on the map, all distances are measured exactly and fit their words as the counts
do, and the clock goes on to the limit at most. -/
structure Engine.InRange (level : Level) (limit : UInt64) (engine : Engine) : Prop where
  within : ∀ world, engine.Passes world → world.Within level
  measured : ∀ world, engine.Passes world → ∀ a ∈ world.places, ∀ b ∈ world.places,
    a.distance b = a.steps b ∧ a.steps b < UInt32.size
  clock : engine.mission.verdict engine.closed.1 = .running →
    engine.closed.1.tick.toNat + 1 ≤ limit.toNat

namespace Engine

variable {engine : Engine} (labelled : engine.world.devices.Labelled)

include labelled

/-- The player's step is the only one that needs the path. -/
theorem within_closed (inside : engine.world.player.reachedExit = false)
    (path : ∀ cell ∈ engine.mission.level.playerPath,
      engine.mission.level.map.contains cell = true)
    (within : engine.world.Within engine.mission.level) :
    engine.closed.1.Within engine.mission.level := by
  have hcued := engine.cued_deeds.within (by simp [Tick.scripted]) within
  have hstirred := (engine.stirred_deeds labelled).within (by simp [Tick.automatic]) hcued
  refine ⟨(stride_walked labelled inside).within path hstirred.player, ?_⟩
  rw [← devices_stirred]
  exact hstirred.devices

theorem Passes.within (inside : engine.world.player.reachedExit = false)
    (path : ∀ cell ∈ engine.mission.level.playerPath,
      engine.mission.level.map.contains cell = true)
    (within : engine.world.Within engine.mission.level) {world : World}
    (passes : engine.Passes world) : world.Within engine.mission.level := by
  have hopened := (opened_deeds labelled).within (by simp [Stage.early]) within
  cases passes with
  | @cued front =>
      exact (Tick.runCues_deeds front engine.world).within (by simp [Tick.scripted]) within
  | woken =>
      have hcued := engine.cued_deeds.within (by simp [Tick.scripted]) within
      exact (woken_deeds labelled).within (by simp) hcued
  | opened => exact hopened
  | @turned front =>
      have hescalated := (escalated_deeds labelled).within (by simp) hopened
      exact (Tick.turns_deeds front rfl).within (by simp) hescalated
  | closed => exact within_closed labelled inside path within

end Engine

/-! ## The whole run -/

namespace Mission

variable {mission : Mission} (sound : mission.level.fault? = none) (poised : mission.level.Poised)

include sound poised

theorem within_after {steps : ℕ} (h : steps ≤ mission.duration) :
    (mission.after steps).world.Within mission.level := by
  induction steps with
  | zero => exact .start sound poised
  | succ steps ih =>
      have running := mission.running_of_lt h
      have hclosed := Engine.within_closed (mission.labelled_after steps)
        (mission.player_after running).2 (by simpa using fun _ => Level.contains_of_mem_path sound)
        (by simpa using ih (Nat.le_of_succ_le h))
      rw [mission_after] at hclosed
      rw [mission.after_succ_of_running running, Engine.world_play]
      refine ⟨?_, ?_⟩
      · rw [player_settle]
        exact hclosed.player
      · rw [devices_settle]
        exact hclosed.devices

theorem inRange_after {step : ℕ} (h : step < mission.duration) :
    (mission.after step).InRange mission.level mission.limit := by
  have hpasses {world : World} (passes : (mission.after step).Passes world) :
      world.Within mission.level := by
    have hwithin := passes.within (mission.labelled_after step)
      (mission.player_after (mission.running_of_lt h)).2
      (by simpa using fun _ => Level.contains_of_mem_path sound)
      (by simpa using within_after sound poised (Nat.le_of_lt h))
    rwa [mission_after] at hwithin
  refine ⟨fun _ passes => hpasses passes, fun _ passes _ ha _ hb => ?_, fun running => ?_⟩
  · have short := (hpasses passes).steps_lt ha hb
    exact ⟨Point.distance_of_lt short, short⟩
  · rw [mission_after] at running
    exact UInt64.lt_iff_toNat_lt.mp (mission.lt_limit_of_verdict running)

end Mission

/-- On a sound level whose counts have room at the start, no tick measures or counts out of range. -/
theorem simulate_inRange (level : Level) (cues : List Script.Cue) (config : Config)
    (sound : level.fault? = none) (poised : level.Poised) (step : ℕ) (frame : Frame)
    (hframe : (simulate level cues config).frames[step]? = some frame) :
    frame = ((Mission.of level cues config).after step).scene ∧
      ((Mission.of level cues config).after step).InRange level
        (simulate level cues config).tickLimit := by
  rw [RunResult.simulate_eq] at hframe ⊢
  obtain ⟨h, rfl⟩ := (Mission.of level cues config).getElem?_frames hframe
  rw [RunResult.tickLimit_ofEngine, Mission.mission_after]
  exact ⟨rfl, Mission.inRange_after sound poised h⟩

theorem simulate_flyby_inRange :
    (flyby "decoy").fault? = none ∧ (flyby "decoy").Poised ∧
      ∃ frame, (simulate (flyby "decoy") [] { storeDigests := false }).frames[1]? = some frame ∧
        frame = ((Mission.of (flyby "decoy") [] { storeDigests := false }).after 1).scene ∧
          ((Mission.of (flyby "decoy") [] { storeDigests := false }).after 1).InRange (flyby "decoy")
            (simulate (flyby "decoy") [] { storeDigests := false }).tickLimit := by
  have sound : (flyby "decoy").fault? = none := by decide +kernel
  have poised : (flyby "decoy").Poised := by decide +kernel
  obtain ⟨frame, hframe⟩ : ∃ frame,
      (simulate (flyby "decoy") [] { storeDigests := false }).frames[1]? = some frame :=
    Option.isSome_iff_exists.mp (by decide +kernel)
  exact ⟨sound, poised, frame, hframe,
    simulate_inRange (flyby "decoy") [] { storeDigests := false } sound poised 1 frame hframe⟩

end Infiltration
