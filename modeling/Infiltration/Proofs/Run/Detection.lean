import Infiltration.Proofs.Run.AlarmTimeline
import Mathlib.Data.List.Count

/-! # When a camera reports

A camera reports the player on the ticks on which it begins to see the player, and on no others. What
it remembers from one tick to the next is only whether it saw the player, so it reports anew after it
was switched off, or after the player was out of its sight. -/

namespace Infiltration

attribute [local irreducible] Mission.opening Mission.closing

/-! ## Reading events -/

/-- A camera reports the player. -/
def Event.IsDetection (camera : String) (event : Event) : Prop :=
  event.kind = .cameraDetectedPlayer ∧ event.text? "cameraId" = some camera

instance (camera : String) (event : Event) : Decidable (event.IsDetection camera) :=
  inferInstanceAs (Decidable (_ ∧ _))

theorem Occurrence.isDetection_event {occurrence : Occurrence} {id tick : UInt64}
    {camera : String} :
    (occurrence.event id tick).IsDetection camera ↔ occurrence = .playerDetected camera := by
  cases occurrence <;>
    simp [Event.IsDetection, event, kind, facts, Event.text?, Payload.text?, Payload.ofList,
      Fact.text?]

/-! ## Sights -/

/-- A camera that is on has a cell in view, no more steps away than its range. -/
def Device.Overlooks (device : Device) (cell : Point) : Prop :=
  ∃ camera, device.camera? = some camera ∧ device.enabled = true ∧
    device.position.steps cell ≤ camera.range.toNat ∧
      camera.facing.covers device.position cell = true

/-- Up to the largest word the distance that a camera measures is the number of steps. -/
theorem Device.watches_iff_overlooks {device : Device} {cell : Point}
    (near : device.position.steps cell < UInt32.size) :
    device.watches cell = true ↔ device.Overlooks cell := by
  cases kind : device.equipment with
  | camera camera =>
      simp [watches, Overlooks, camera?, kind, Point.distance_of_lt near, and_assoc]
  | _ => simp [watches, Overlooks, camera?, kind]

/-- A camera sees the player on a tick: in the frame of the tick it is on, and it watches the cell on
which the player stood before. -/
def RunResult.SeenBy (level : Level) (result : RunResult) (camera : String) (tick : ℕ) : Prop :=
  ∃ before frame device, (result.snapshots level)[tick]? = some before ∧
    result.frames[tick]? = some frame ∧ frame.snapshot.devices.find? camera = some device ∧
      device.watches before.player.position = true

/-- The steps from a camera to the player decide what it sees. -/
theorem RunResult.seenBy_iff_overlooks {level : Level} {result : RunResult} {camera : String}
    {tick : ℕ} {before : Snapshot} {frame : Frame} {device : Device}
    (hbefore : (result.snapshots level)[tick]? = some before)
    (hframe : result.frames[tick]? = some frame)
    (found : frame.snapshot.devices.find? camera = some device)
    (near : device.position.steps before.player.position < UInt32.size) :
    result.SeenBy level camera tick ↔ device.Overlooks before.player.position := by
  rw [← Device.watches_iff_overlooks near]
  constructor
  · rintro ⟨before', frame', device', hbefore', hframe', found', watches⟩
    obtain rfl := Option.some.inj (hbefore.symm.trans hbefore')
    obtain rfl := Option.some.inj (hframe.symm.trans hframe')
    obtain rfl := Option.some.inj (found.symm.trans found')
    exact watches
  · intro watches
    exact ⟨before, frame, device, hbefore, hframe, found, watches⟩

/-- A camera begins to see the player on a tick. -/
def RunResult.SightBegins (level : Level) (result : RunResult) (camera : String) (tick : ℕ) : Prop :=
  result.SeenBy level camera tick ∧ (tick = 0 ∨ ¬result.SeenBy level camera (tick - 1))

/-- Every camera reports the player once on each tick on which it begins to see the player, and never
else. What it sees goes by the steps, unless there are more of them than a word can count. -/
structure RunResult.Detects (level : Level) (result : RunResult) : Prop where
  once : ∀ (tick : ℕ) (frame : Frame), result.frames[tick]? = some frame → ∀ camera,
    result.SightBegins level camera tick →
      frame.events.countP (fun event => event.IsDetection camera) = 1
  else_never : ∀ (tick : ℕ) (frame : Frame), result.frames[tick]? = some frame → ∀ camera,
    ¬result.SightBegins level camera tick →
      frame.events.countP (fun event => event.IsDetection camera) = 0
  seen_iff : ∀ (tick : ℕ) (before : Snapshot) (frame : Frame),
    (result.snapshots level)[tick]? = some before → result.frames[tick]? = some frame →
      ∀ camera device, frame.snapshot.devices.find? camera = some device →
        device.position.steps before.player.position < UInt32.size →
          (result.SeenBy level camera tick ↔ device.Overlooks before.player.position)

/-! ## One tick -/

namespace Engine

variable {engine : Engine} {camera : String} (labelled : engine.world.devices.Labelled)

include labelled

/-- The cameras that see the player are those that the frame shows on, with the player's former cell in
sight. -/
theorem mem_sightings_iff (alive : engine.world.player.alive = true) :
    camera ∈ engine.opened.1.sightings ↔ ∃ device, engine.closed.1.devices.find? camera = some device ∧
      device.watches engine.world.player.position = true := by
  have hplayer := (opened_deeds labelled).player_eq (by simp [Stage.early]) (by simp [Stage.early])
  have hsees (device : Device) : device.sees engine.opened.1.player =
      device.watches engine.world.player.position := by
    rw [hplayer, Device.sees_eq, alive, Bool.true_and]
  have hsights := sights_closed labelled
  rw [World.sightings, Roster.mem_map_id_filter ((opened_deeds labelled).labelled labelled)]
  constructor
  · rintro ⟨device, found, sees⟩
    obtain ⟨other, hother, hwatches⟩ := Roster.find?_of_view_eq hsights.symm found
    exact ⟨other, hother, by rw [hwatches, ← hsees, sees]⟩
  · rintro ⟨device, found, watches⟩
    obtain ⟨other, hother, hwatches⟩ := Roster.find?_of_view_eq hsights found
    exact ⟨other, hother, by rw [hsees, hwatches, watches]⟩

/-- A camera reports a sight once, unless it saw the player already. -/
theorem count_sighted : engine.sighted.count (.playerDetected camera) =
    if camera ∈ engine.opened.1.sightings ∧ camera ∉ engine.watching then 1 else 0 := by
  have distinct : engine.opened.1.sightings.Nodup :=
    Roster.nodup_map_id_filter ((opened_deeds labelled).labelled labelled) _
  have hinjective : Function.Injective Occurrence.playerDetected :=
    fun _ _ h => Occurrence.playerDetected.inj h
  rw [sighted, Tick.reportSightings, List.count_map_of_injective _ _ hinjective,
    (distinct.filter _).count]
  simp

/-- The cameras report on their turn only. -/
theorem count_detections : engine.entries.countP (fun event => event.IsDetection camera) =
    if camera ∈ engine.opened.1.sightings ∧ camera ∉ engine.watching then 1 else 0 := by
  have hwoken : engine.woken.2.count (.playerDetected camera) = 0 :=
    List.count_eq_zero.mpr ((woken_deeds labelled).not_told (by simp [Occurrence.stage]))
  have hentries : engine.entries.countP (fun event => event.IsDetection camera) =
      engine.occurrences.count (.playerDetected camera) :=
    countP_enterFrom (fun _ _ => Occurrence.isDetection_event) _ _
  rw [hentries, count_occurrences labelled rfl (by simp [Occurrence.stage, Stage.late]), hwoken,
    Nat.zero_add, count_sighted labelled]

end Engine

/-! ## The whole run -/

namespace Mission

variable {mission : Mission} {camera : String} {step : ℕ}

/-- A camera sees the player on the ticks whose steps find it among those that see the player. -/
theorem seenBy_iff :
    (RunResult.ofEngine (mission.after mission.duration)).SeenBy mission.level camera step ↔
      step < mission.duration ∧ camera ∈ (mission.after step).opened.1.sightings := by
  have mem_iff (h : step < mission.duration) :
      camera ∈ (mission.after step).opened.1.sightings ↔ _ :=
    Engine.mem_sightings_iff (mission.labelled_after step)
      (mission.player_after (mission.running_of_lt h)).1
  constructor
  · rintro ⟨before, frame, device, hbefore, hframe, found, watches⟩
    obtain ⟨h, rfl⟩ := mission.getElem?_frames hframe
    obtain ⟨other, hother, hplayer, -⟩ := mission.snapshots_duration h
    obtain rfl := Option.some.inj (hother.symm.trans hbefore)
    exact ⟨h, (mem_iff h).mpr ⟨device, found, hplayer ▸ watches⟩⟩
  · rintro ⟨h, member⟩
    obtain ⟨device, found, watches⟩ := (mem_iff h).mp member
    obtain ⟨before, hbefore, hplayer, -⟩ := mission.snapshots_duration h
    exact ⟨before, _, device, hbefore, mission.getElem?_frames_eq_some h, found, hplayer ▸ watches⟩

/-- A tick remembers the cameras that saw the player on the tick before. -/
theorem mem_watching_iff (h : step < mission.duration) : camera ∈ (mission.after step).watching ↔
    step ≠ 0 ∧
      (RunResult.ofEngine (mission.after mission.duration)).SeenBy mission.level camera (step - 1) := by
  cases step with
  | zero => simp [after_zero, Engine.start]
  | succ step =>
      have hstep := Nat.lt_of_succ_lt h
      rw [mission.after_succ_of_running (mission.running_of_lt hstep), Nat.add_sub_cancel, seenBy_iff]
      exact ⟨fun member => ⟨Nat.succ_ne_zero step, hstep, member⟩, fun h => h.2.2⟩

theorem sightBegins_iff (h : step < mission.duration) :
    (RunResult.ofEngine (mission.after mission.duration)).SightBegins mission.level camera step ↔
      camera ∈ (mission.after step).opened.1.sightings ∧ camera ∉ (mission.after step).watching := by
  rw [RunResult.SightBegins, mem_watching_iff h, seenBy_iff, and_iff_right h, not_and_or, not_ne_iff]

variable (mission) in
theorem detects_duration :
    (RunResult.ofEngine (mission.after mission.duration)).Detects mission.level := by
  refine ⟨?_, ?_, fun _ _ _ hbefore hframe _ _ => RunResult.seenBy_iff_overlooks hbefore hframe⟩
  · intro step frame hframe camera begins
    obtain ⟨h, rfl⟩ := mission.getElem?_frames hframe
    rw [Engine.events_scene, Engine.count_detections (mission.labelled_after step),
      if_pos ((sightBegins_iff h).mp begins)]
  · intro step frame hframe camera idle
    obtain ⟨h, rfl⟩ := mission.getElem?_frames hframe
    rw [Engine.events_scene, Engine.count_detections (mission.labelled_after step),
      if_neg fun begins => idle ((sightBegins_iff h).mpr begins)]

end Mission

/-- In every run the cameras report exactly the ticks on which they begin to see the player. -/
theorem simulate_detects (level : Level) (cues : List Script.Cue) (config : Config) :
    (simulate level cues config).Detects level := by
  rw [RunResult.simulate_eq]
  exact (Mission.of level cues config).detects_duration

end Infiltration
