import Infiltration.Proofs.Failure
import Infiltration.Proofs.Run.Detection
import Infiltration.Proofs.Run.Fixtures
import Infiltration.Proofs.Run.Lock
import Infiltration.Proofs.Run.Motion

/-! # Why a run failed

What is told of a failed run is what happened in it. The events that the story is read from carry the
texts that it looks for, a death is told on the last tick, and the alarm only rises: so its last change
is to red if any is. -/

namespace Infiltration

attribute [local irreducible] Mission.opening Mission.closing

/-! ## Reading events -/

/-- The alarm turns red. -/
def Event.TurnsRed (event : Event) : Prop :=
  event.kind = .alarmStateChanged ∧ event.text? "to" = some AlarmLevel.red.name

/-- What an event of a log adds to the story of a death. -/
inductive Event.Tells (event : Event) : String → Prop where
  | detection {camera} (detected : event.IsDetection camera) :
      Tells event ("Camera " ++ camera ++ " detected player")
  | red (turned : event.TurnsRed) : Tells event "Alarm escalated to RED"
  | lock {turret target} (locked : event.IsLock turret target) :
      Tells event ("Turret " ++ turret ++ " acquired target " ++ target)

/-- An event carries all that a story reads from an event of its kind. -/
structure Event.Legible (event : Event) : Prop where
  killed : event.kind = .playerKilled → ∃ turret, event.IsKill turret
  locked : event.kind = .turretTargetLock → ∃ turret target, event.IsLock turret target
  blocked : event.kind = .playerBlockedByDoor → ∃ door, event.IsBlock door
  detected : event.kind = .cameraDetectedPlayer → ∃ camera, event.IsDetection camera
  changed : event.kind = .alarmStateChanged → ∃ old new, event.IsAlarmChange old new

theorem Occurrence.legible_event (occurrence : Occurrence) (id tick : UInt64) :
    (occurrence.event id tick).Legible where
  killed h := by
    cases occurrence with
    | playerKilled turret => exact ⟨turret, isKill_event.mpr rfl⟩
    | _ => cases h
  locked h := by
    cases occurrence with
    | targetLocked turret target => exact ⟨turret, target, isLock_event.mpr rfl⟩
    | _ => cases h
  blocked h := by
    cases occurrence with
    | playerBlocked door => exact ⟨door, isBlock_event.mpr rfl⟩
    | _ => cases h
  detected h := by
    cases occurrence with
    | playerDetected camera => exact ⟨camera, isDetection_event.mpr rfl⟩
    | _ => cases h
  changed h := by
    cases occurrence with
    | alarmChanged old new => exact ⟨old, new, isAlarmChange_event id tick old new⟩
    | _ => cases h

theorem Mission.legible_log (mission : Mission) :
    ∀ event ∈ (mission.after mission.duration).log, event.Legible := by
  intro event member
  rw [mission.log_after le_rfl] at member
  obtain ⟨step, -, member⟩ := List.mem_flatMap.mp member
  obtain ⟨occurrence, -, id, rfl⟩ := mem_enterFrom member
  exact occurrence.legible_event id _

/-! ## The alarm only rises -/

namespace AlarmLevel

theorem climb_self (level : AlarmLevel) : level.climb level = [] := by
  cases level <;> rfl

theorem climb_trans {a b c : AlarmLevel} (hab : a.rank ≤ b.rank) (hbc : b.rank ≤ c.rank) :
    a.climb b ++ b.climb c = a.climb c := by
  cases a <;> cases b <;> cases c <;> simp_all [rank, climb]

end AlarmLevel

/-- A deed lets the alarm rise or leaves it, and tells of the rise. -/
theorem Deed.climbs {stage : Stage} {world next : World} {occurrences : List Occurrence}
    (deed : Deed stage world occurrences next) :
    world.alarmLevel.rank ≤ next.alarmLevel.rank ∧
      occurrences.filterMap Occurrence.change? = world.alarmLevel.climb next.alarmLevel := by
  by_cases turn : stage = .alarm
  · subst turn
    cases deed with
    | @device _ _ key device device' _ found deed =>
        have hlevel : (world.modifyDevice key fun _ => device').alarmLevel = world.alarmLevel := by
          apply Roster.alarmLevel_of_view_eq
          apply Roster.view_modify_of_hidden
          intro other hother
          obtain rfl := Option.some.inj (found.symm.trans hother)
          exact deed.alarm?_eq
        rw [hlevel, AlarmLevel.climb_self]
        cases deed with
        | lockedDown => exact ⟨le_rfl, rfl⟩
    | @alerted _ _ alarm first calm =>
        have hyellow : (alarm.alert world.tick).1.level = .yellow := by simp [Alarm.alert, calm]
        rw [World.alarmLevel_of_first first, World.alarmLevel_setEquipment first, calm, hyellow]
        exact ⟨by decide, rfl⟩
    | @reddened _ _ alarm first due =>
        have alerted : alarm.level = .yellow := by
          rw [Alarm.due, Bool.and_eq_true, decide_eq_true_eq] at due
          exact due.1
        have hred : alarm.redden.level = .red := rfl
        rw [World.alarmLevel_of_first first, World.alarmLevel_setEquipment first, alerted, hred]
        exact ⟨by decide, rfl⟩
  · rw [deed.alarmLevel_eq turn, AlarmLevel.climb_self, List.filterMap_eq_nil_iff]
    refine ⟨le_rfl, fun occurrence member => occurrence.change?_eq_none ?_⟩
    rwa [deed.stage_eq occurrence member]

theorem Deeds.climbs {stages : Set Stage} {world last : World} {occurrences : List Occurrence}
    (deeds : Deeds stages world occurrences last) :
    world.alarmLevel.rank ≤ last.alarmLevel.rank ∧
      occurrences.filterMap Occurrence.change? = world.alarmLevel.climb last.alarmLevel := by
  induction deeds with
  | nil world => exact ⟨le_rfl, world.alarmLevel.climb_self.symm⟩
  | cons _ deed _ ih =>
      obtain ⟨hrank, hchanges⟩ := deed.climbs
      rw [List.filterMap_append, hchanges, ih.2, AlarmLevel.climb_trans hrank ih.1]
      exact ⟨hrank.trans ih.1, rfl⟩

theorem Log.Changes.append {front back : Log} {changes more : List (AlarmLevel × AlarmLevel)}
    (h : front.Changes changes) (hback : back.Changes more) :
    Log.Changes (front ++ back) (changes ++ more) := by
  rw [Log.Changes, Log.ofKind, List.filter_append]
  exact List.rel_append h hback

/-- A log that tells of a climb tells of nothing after the turn to red. -/
theorem Log.Changes.red_last {log : Log} {a b : AlarmLevel} (h : log.Changes (a.climb b)) :
    log.Pairwise fun earlier later => earlier.kind = .alarmStateChanged →
      later.kind = .alarmStateChanged → FailureSummary.turnedRed earlier = false := by
  have hchanges : (log.ofKind .alarmStateChanged).Pairwise fun earlier _ =>
      FailureSummary.turnedRed earlier = false := by
    rw [Log.Changes] at h
    generalize log.ofKind .alarmStateChanged = changes at h
    by_cases through : a = .green ∧ b = .red
    · obtain ⟨rfl, rfl⟩ := through
      obtain - | @⟨first, _, _, _, hyellow, - | ⟨-, ⟨⟩⟩⟩ := h
      have hcalm : FailureSummary.turnedRed first = false := by
        rw [FailureSummary.turnedRed, hyellow.2.2]
        decide
      simpa using hcalm
    · have hlength : changes.length ≤ 1 := by
        rw [h.length_eq]
        cases a <;> cases b <;> simp_all [AlarmLevel.climb]
      cases changes with
      | nil => exact .nil
      | cons change rest =>
          have hrest : rest = [] :=
            List.length_eq_zero_iff.mp (Nat.le_zero.mp (Nat.le_of_succ_le_succ hlength))
          rw [hrest]
          exact List.pairwise_singleton _ _
  rw [Log.ofKind, List.pairwise_filter] at hchanges
  simpa using hchanges

namespace Mission

variable (mission : Mission)

/-- What the log tells of the alarm is how it has risen since the start. -/
theorem changes_log {steps : ℕ} (h : steps ≤ mission.duration) :
    (World.start mission.level).alarmLevel.rank ≤ (mission.after steps).world.alarmLevel.rank ∧
      (mission.after steps).log.Changes
        ((World.start mission.level).alarmLevel.climb (mission.after steps).world.alarmLevel) := by
  induction steps with
  | zero =>
      refine ⟨le_rfl, ?_⟩
      rw [after_zero, Engine.start, AlarmLevel.climb_self]
      exact .nil
  | succ steps ih =>
      obtain ⟨hrank, hlog⟩ := ih (Nat.le_of_succ_le h)
      obtain ⟨hrise, hchanges⟩ := (Engine.play_deeds (mission.labelled_after steps)).climbs
      have hlevel : (mission.after (steps + 1)).world.alarmLevel =
          (mission.after steps).closed.1.alarmLevel := by
        rw [World.alarmLevel, mission.devices_after_succ h, World.alarmLevel]
      have hentries := changes_enterFrom (mission.after steps).entered
        (mission.after steps).world.tick (mission.after steps).occurrences
      rw [hchanges] at hentries
      rw [hlevel, mission.after_succ_of_running (mission.running_of_lt h), Engine.log_play,
        ← AlarmLevel.climb_trans hrank hrise]
      exact ⟨hrank.trans hrise, hlog.append hentries⟩

end Mission

/-! ## Stories -/

/-- A story tells of a death by a turret: it closes with the shot, tells of a camera if one has reported
the player, of the alarm if it has turned red, and of a lock if there is one; and nothing else. -/
structure FailureSummary.TellsKill (log : Log) (turret : String) (summary : FailureSummary) :
    Prop where
  cause : summary.primaryCause = "Turret " ++ turret ++ " killed player"
  shot : summary.causeChain.getLast? = some ("Turret " ++ turret ++ " fired on player")
  camera_iff : (∃ camera, "Camera " ++ camera ++ " detected player" ∈ summary.causeChain) ↔
    ∃ event ∈ log, event.kind = .cameraDetectedPlayer
  red_iff : "Alarm escalated to RED" ∈ summary.causeChain ↔ ∃ event ∈ log, event.TurnsRed
  lock : (∃ event ∈ log, event.kind = .turretTargetLock) →
    ∃ event ∈ log, ∃ locker target, event.IsLock locker target ∧
      "Turret " ++ locker ++ " acquired target " ++ target ∈ summary.causeChain
  steps : ∀ text ∈ summary.causeChain,
    text = "Turret " ++ turret ++ " fired on player" ∨ ∃ event ∈ log, event.Tells text

/-- A story tells of a door that has stopped the player until a tick, and of the alarm if it had turned
red by then. -/
structure FailureSummary.TellsBlock (log : Log) (door : String) (tick : UInt64)
    (summary : FailureSummary) : Prop where
  cause : summary.primaryCause = "Player was stopped by door " ++ door
  stop : summary.causeChain.getLast? = some ("Door " ++ door ++ " blocked movement")
  red_iff : "Alarm escalated to RED" ∈ summary.causeChain ↔
    ∃ event ∈ log, event.TurnsRed ∧ event.tick ≤ tick
  steps : ∀ text ∈ summary.causeChain,
    text = "Door " ++ door ++ " blocked movement" ∨ text = "Alarm escalated to RED"

namespace FailureSummary

variable {log : Log} {kill block : Event} {turret door : String}

theorem turnedRed_iff {event : Event} : event.kind = .alarmStateChanged ∧ turnedRed event = true ↔
    event.TurnsRed := by
  rw [turnedRed, decide_eq_true_eq, Event.TurnsRed]

/-- Where no event is later than the death, the story goes by the last lock of all. -/
theorem lockStep_eq {tick : UInt64} {lock : Event} {locker target : String}
    (late : ∀ event ∈ log, event.tick ≤ tick) (locked : lock.IsLock locker target)
    (last : log.findLast? .turretTargetLock = some lock) :
    lockStep log tick = ["Turret " ++ locker ++ " acquired target " ++ target] := by
  rw [lockStep, Log.findLastUntil?_of_le late, last]
  simp only [locked.2.1, locked.2.2, Option.getD_some]

section Legible

variable (legible : ∀ event ∈ log, event.Legible)
  (red_last : log.Pairwise fun earlier later => earlier.kind = .alarmStateChanged →
    later.kind = .alarmStateChanged → turnedRed earlier = false)

include legible red_last

theorem tells_of_mem_ofKill (late : ∀ event ∈ log, event.tick ≤ kill.tick) {text : String}
    (member : text ∈ (ofKill log kill).causeChain) :
    text = "Turret " ++ (kill.text? "turretId").getD "unknown turret" ++ " fired on player" ∨
      ∃ event ∈ log, event.Tells text := by
  simp only [causeChain_ofKill, List.mem_append, List.mem_singleton, mem_cameraStep, mem_redStep,
    lastCamera?, Log.findLastUntil?_of_le late] at member
  obtain ((hcamera | hred) | hlock) | hshot := member
  · obtain ⟨camera, hcamera, rfl⟩ := hcamera
    obtain ⟨report, hreport, hid⟩ := Option.bind_eq_some_iff.mp hcamera
    exact .inr ⟨report, Log.mem_of_findLast? hreport,
      .detection ⟨(Log.findLast?_eq_some.mp hreport).1, hid⟩⟩
  · obtain ⟨hred, rfl⟩ := hred
    obtain ⟨event, hevent, turned⟩ := (Log.any_findLast? red_last).mp hred
    exact .inr ⟨event, hevent, .red (turnedRed_iff.mp turned)⟩
  · obtain ⟨lock, hlast, -⟩ := mem_lockStep.mp hlock
    rw [Log.findLastUntil?_of_le late] at hlast
    obtain ⟨locker, target, locked⟩ :=
      (legible lock (Log.mem_of_findLast? hlast)).locked (Log.findLast?_eq_some.mp hlast).1
    rw [lockStep_eq late locked hlast, List.mem_singleton] at hlock
    exact .inr ⟨lock, Log.mem_of_findLast? hlast, hlock ▸ .lock locked⟩
  · exact .inl hshot

theorem tellsKill_ofKill (late : ∀ event ∈ log, event.tick ≤ kill.tick) (killed : kill.IsKill turret) :
    (ofKill log kill).TellsKill log turret := by
  have hturret : (kill.text? "turretId").getD "unknown turret" = turret := by rw [killed.2]; rfl
  have hchain := @causeChain_ofKill log kill
  rw [hturret] at hchain
  refine ⟨?_, ?_, ?_, ?_, ?_, ?_⟩
  · rw [ofKill, hturret]
  · rw [hchain, List.getLast?_concat]
  · rw [exists_camera_mem_ofKill, lastCamera?, Log.findLastUntil?_of_le late, ← Log.isSome_findLast?]
    cases h : log.findLast? .cameraDetectedPlayer with
    | none => rfl
    | some report =>
        obtain ⟨camera, hreport⟩ :=
          (legible report (Log.mem_of_findLast? h)).detected (Log.findLast?_eq_some.mp h).1
        simp [hreport.2]
  · rw [red_mem_ofKill, Log.findLastUntil?_of_le late, Log.any_findLast? red_last]
    simp only [turnedRed_iff]
  · intro hlock
    rw [← Log.isSome_findLast?, Option.isSome_iff_exists] at hlock
    obtain ⟨lock, hlock⟩ := hlock
    obtain ⟨locker, target, locks⟩ :=
      (legible lock (Log.mem_of_findLast? hlock)).locked (Log.findLast?_eq_some.mp hlock).1
    refine ⟨lock, Log.mem_of_findLast? hlock, locker, target, locks, ?_⟩
    rw [hchain, lockStep_eq late locks hlock]
    simp
  · intro text member
    have htells := tells_of_mem_ofKill legible red_last late member
    rwa [hturret] at htells

omit legible in
theorem tellsBlock_ofBlock (blocked : block.IsBlock door) :
    (ofBlock log block).TellsBlock log door block.tick := by
  have hdoor : (block.text? "doorId").getD "unknown door" = door := by rw [blocked.2]; rfl
  have hchain : (ofBlock log block).causeChain =
      redStep log block.tick ++ ["Door " ++ door ++ " blocked movement"] := by
    unfold ofBlock
    rw [hdoor]
  refine ⟨?_, ?_, ?_, ?_⟩
  · unfold ofBlock
    rw [hdoor]
  · rw [hchain, List.getLast?_concat]
  · rw [red_mem_ofBlock, Log.any_findLastUntil? red_last]
    simp only [turnedRed_iff, and_comm]
  · intro text member
    rw [hchain, List.mem_append, List.mem_singleton] at member
    exact member.symm.imp_right fun h => (mem_redStep.mp h).2

end Legible

end FailureSummary

/-! ## The door -/

/-- Who reports a door stands before one of the level's path. -/
theorem Player.Stride.door_of_told {level : Level} {devices : Roster} {player next : Player}
    {told : List Occurrence} (stride : player.Stride level devices told next) {id : String}
    (blocked : .playerBlocked id ∈ told) :
    ∃ door ∈ devices.devices, door.id = id ∧ door.type = .door ∧ door.position ∈ level.playerPath := by
  cases stride with
  | @stops cell door _ ahead bar =>
      obtain ⟨front, back, hdevices, ⟨place, closed, kind, -⟩, -⟩ := bar
      split at blocked
      · cases blocked
      · obtain rfl := Occurrence.playerBlocked.inj (List.mem_singleton.mp blocked)
        refine ⟨door, by simp [hdevices], rfl, by simp [Device.type, Equipment.type, kind], ?_⟩
        rw [place]
        exact List.mem_of_getElem? ahead
  | _ => simp at blocked

/-- Devices of a run have the same fixtures after all of its ticks. -/
theorem Mission.find?_closed (mission : Mission) {step other : ℕ} (h : step < mission.duration)
    (hother : other < mission.duration) {key : String} {device : Device}
    (found : (mission.after step).closed.1.devices.find? key = some device) :
    ∃ device', (mission.after other).closed.1.devices.find? key = some device' ∧
      device'.fixture = device.fixture := by
  rw [← mission.devices_after_succ h] at found
  rw [← mission.devices_after_succ hother]
  exact Roster.find?_of_view_eq ((mission.fixtures_after (step + 1)).trans
    (mission.fixtures_after (other + 1)).symm) found

/-- A door that has been reported still stands on the path in the end. -/
theorem Mission.door_of_blocked (mission : Mission) {block : Event} {door : String}
    (member : block ∈ (mission.after mission.duration).log) (blocked : block.IsBlock door) :
    ∃ device, mission.last.closed.1.devices.find? door = some device ∧ device.id = door ∧
      device.type = .door ∧ device.position ∈ mission.level.playerPath := by
  rw [mission.log_after le_rfl] at member
  obtain ⟨step, hstep, member⟩ := List.mem_flatMap.mp member
  rw [List.mem_range] at hstep
  have labelled := mission.labelled_after step
  have inside := (mission.player_after (mission.running_of_lt hstep)).2
  have htold := (Engine.blocked_walked labelled door).mp ⟨block, member, blocked⟩
  obtain ⟨device, hdevice, rfl, kind, place⟩ :=
    (Engine.stride_walked labelled inside).door_of_told htold
  rw [mission_after] at place
  obtain ⟨⟨key, _⟩, hentry, rfl⟩ := List.mem_map.mp hdevice
  have found := Roster.find?_eq_some.mpr hentry
  rw [← (Engine.play_deeds labelled).labelled labelled _ _ found] at found
  obtain ⟨other, hother, hsame⟩ := mission.find?_closed hstep
    (Nat.sub_lt mission.duration_pos Nat.one_pos) found
  have htype := Device.type_of_fixture_eq hsame
  have hposition := Device.position_of_fixture_eq hsame (by simp [htype, kind])
  exact ⟨other, hother, congrArg Fixture.id hsame, htype.trans kind, by rwa [hposition]⟩

/-! ## The whole run -/

/-- The summary of a failed run fits its log and its last frame. Where the player is dead it names the
turret, else the last door that has stopped the player, else the time; and all that it looks for in
the log is there. -/
structure RunResult.Explains (level : Level) (result : RunResult) (last : Frame)
    (summary : FailureSummary) : Prop where
  legible : ∀ event ∈ result.events, event.Legible
  known : summary.primaryCause ≠ "Run failed"
  length : 1 ≤ summary.causeChain.length ∧ summary.causeChain.length ≤ 4
  killed : last.snapshot.player.alive = false → ∃ turret device,
    last.snapshot.devices.find? turret = some device ∧ device.id = turret ∧ device.type = .turret ∧
      device.enabled = true ∧ summary.TellsKill result.events turret
  blocked : last.snapshot.player.alive = true → ∀ front block back,
    result.events = front ++ block :: back → block.kind = .playerBlockedByDoor →
      (∀ event ∈ back, event.kind ≠ .playerBlockedByDoor) → ∃ door device,
        block.IsBlock door ∧ last.snapshot.devices.find? door = some device ∧ device.id = door ∧
          device.type = .door ∧ device.position ∈ level.playerPath ∧
            summary.TellsBlock result.events door block.tick
  timedOut : last.snapshot.player.alive = true →
    (∀ event ∈ result.events, event.kind ≠ .playerBlockedByDoor) →
      summary.primaryCause = "Run timed out before reaching exit"

namespace Mission

variable (mission : Mission)

theorem tick_le_of_mem_last {event last : Event}
    (member : event ∈ (mission.after mission.duration).log) (hlast : last ∈ mission.last.entries) :
    event.tick ≤ last.tick := by
  have hevent := mission.tick_of_mem_log le_rfl member
  have htick := mission.tick_of_mem_entries (Nat.sub_lt mission.duration_pos Nat.one_pos) hlast
  rw [UInt64.le_iff_toNat_le]
  omega

/-- A death is told on the last tick. -/
theorem mem_last_of_killed {kill : Event} (member : kill ∈ (mission.after mission.duration).log)
    (killed : kill.kind = .playerKilled) : kill ∈ mission.last.entries := by
  obtain ⟨front, hlog, hfront⟩ := mission.log_duration
  rw [hlog, List.mem_append] at member
  exact member.resolve_left fun h => hfront kill h (.inl killed)

theorem red_last_log : (mission.after mission.duration).log.Pairwise fun earlier later =>
    earlier.kind = .alarmStateChanged → later.kind = .alarmStateChanged →
      FailureSummary.turnedRed earlier = false :=
  (mission.changes_log le_rfl).2.red_last

/-- The story of a run in which the player was killed, with the turret as the last frame shows it. -/
theorem story_of_dead (dead : mission.last.closed.1.player.alive = false) :
    ∃ turret device, mission.last.closed.1.devices.find? turret = some device ∧ device.id = turret ∧
      device.type = .turret ∧ device.enabled = true ∧
        (FailureSummary.ofLog (mission.after mission.duration).log).TellsKill
          (mission.after mission.duration).log turret := by
  have labelled := (Engine.play_deeds mission.labelled_last).labelled mission.labelled_last
  obtain ⟨kill, hkill⟩ :=
    Option.isSome_iff_exists.mp (Log.isSome_findLast?.mpr (mission.exists_killed_iff.mpr dead))
  have member := Log.mem_of_findLast? hkill
  have hlast := mission.mem_last_of_killed member (Log.findLast?_eq_some.mp hkill).1
  obtain ⟨occurrence, told, id, rfl⟩ := mem_enterFrom hlast
  obtain ⟨turret, killed⟩ := (occurrence.legible_event id _).killed (Log.findLast?_eq_some.mp hkill).1
  obtain rfl := Occurrence.isKill_event.mp killed
  obtain ⟨device, _, ⟨found, kind, on, -⟩, -⟩ := Engine.kill_scene mission.labelled_last told
  refine ⟨turret, device, found, labelled _ _ found, ?_, on, ?_⟩
  · exact (Device.isSome_turret? device).mp (by simp [kind])
  · rw [FailureSummary.ofLog_of_killed hkill]
    exact FailureSummary.tellsKill_ofKill mission.legible_log mission.red_last_log
      (fun _ hmember => mission.tick_le_of_mem_last hmember hlast) killed

theorem explains_duration (failed : (mission.after mission.duration).world.outcome = .failure) :
    (RunResult.ofEngine (mission.after mission.duration)).Explains mission.level mission.last.scene
      (FailureSummary.ofLog (mission.after mission.duration).log) := by
  have halive (alive : mission.last.closed.1.player.alive = true) :
      ∀ event ∈ (mission.after mission.duration).log, event.kind ≠ .playerKilled := by
    intro event member killed
    have dead := mission.exists_killed_iff.mp ⟨event, member, killed⟩
    exact absurd (dead.symm.trans alive) Bool.false_ne_true
  have hlate (alive : mission.last.closed.1.player.alive = true) :
      ∃ event ∈ (mission.after mission.duration).log, event.kind = .runTimeout := by
    rcases (mission.outcome_eq_failure.mp failed).2 with dead | late
    · exact absurd (dead.symm.trans alive) Bool.false_ne_true
    · exact mission.exists_timeout_iff.mpr late
  refine ⟨mission.legible_log, ?_, FailureSummary.length_causeChain_ofLog, mission.story_of_dead, ?_,
    ?_⟩
  · apply FailureSummary.primaryCause_ofLog_ne
    cases alive : mission.last.closed.1.player.alive with
    | false =>
        obtain ⟨kill, member, killed⟩ := mission.exists_killed_iff.mpr alive
        exact ⟨kill, member, .inl killed⟩
    | true =>
        obtain ⟨timeout, member, late⟩ := hlate alive
        exact ⟨timeout, member, .inr late⟩
  · intro alive front block back heq hkind hback
    have member : block ∈ (mission.after mission.duration).log := by
      rw [← RunResult.events_ofEngine, heq]
      simp
    obtain ⟨door, blocked⟩ := (mission.legible_log block member).blocked hkind
    obtain ⟨device, found, hid, kind, place⟩ := mission.door_of_blocked member blocked
    refine ⟨door, device, blocked, found, hid, kind, place, ?_⟩
    rw [FailureSummary.ofLog_of_blocked (halive alive)
      (Log.findLast?_eq_some.mpr ⟨hkind, front, back, heq, hback⟩)]
    exact FailureSummary.tellsBlock_ofBlock mission.red_last_log blocked
  · intro alive free
    rw [FailureSummary.ofLog_of_timeout (halive alive) free (hlate alive)]
    rfl

end Mission

/-- What is told of a failed run is what happened in it. -/
theorem simulate_explains (level : Level) (cues : List Script.Cue) (config : Config)
    (failed : (simulate level cues config).outcome = .failure) :
    ∃ last summary, (simulate level cues config).frames.getLast? = some last ∧
      (simulate level cues config).failureSummary = some summary ∧
        (simulate level cues config).Explains level last summary := by
  rw [RunResult.simulate_eq] at failed ⊢
  refine ⟨_, _, Mission.getLast?_frames _, ?_, Mission.explains_duration _ failed⟩
  rw [RunResult.outcome_ofEngine] at failed
  rw [RunResult.failureSummary_ofEngine, if_pos failed]

/-- The door of the corridor stays closed, and the time runs out. -/
theorem simulate_corridor_explains :
    (simulate corridor [] { storeDigests := false }).outcome = .failure ∧
      ∃ last summary,
        (simulate corridor [] { storeDigests := false }).frames.getLast? = some last ∧
          (simulate corridor [] { storeDigests := false }).failureSummary = some summary ∧
            (simulate corridor [] { storeDigests := false }).Explains corridor last summary := by
  have failed : (simulate corridor [] { storeDigests := false }).outcome = .failure := by
    decide +kernel
  exact ⟨failed, simulate_explains corridor [] { storeDigests := false } failed⟩

end Infiltration
