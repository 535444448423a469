import Infiltration.Proofs.Tick.Escalation
import Infiltration.Proofs.Tick.Persistence

/-! # The alarm in a tick

Script lines delay the alarm. Then, on its own turn, it takes note of the player and of its deadline.
Nothing else in a tick touches it or tells of a change of its level. -/

namespace Infiltration

/-- How long a command delays the alarm. -/
def Script.Command.delay : Command → ℕ
  | delayAlarm ticks => ticks.toNat
  | _ => 0

/-- A change of the alarm's level that is told. -/
def Occurrence.change? : Occurrence → Option (AlarmLevel × AlarmLevel)
  | alarmChanged old new => some (old, new)
  | _ => none

/-- The changes that lead from one level of the alarm to another. -/
def AlarmLevel.climb : AlarmLevel → AlarmLevel → List (AlarmLevel × AlarmLevel)
  | green, yellow => [(green, yellow)]
  | yellow, red => [(yellow, red)]
  | green, red => [(green, yellow), (yellow, red)]
  | _, _ => []

namespace Alarm

/-- What a command makes of the alarm. -/
def obey (alarm : Alarm) : Script.Command → Alarm
  | .delayAlarm ticks => alarm.delay ticks
  | _ => alarm

/-- What the commands of cues make of the alarm, one after the other. -/
def obeyAll (alarm : Alarm) (cues : List Script.Cue) : Alarm :=
  cues.foldl (fun alarm cue => alarm.obey cue.command) alarm

/-- What the sight of the player makes of the alarm, if there is one. -/
def notice (alarm : Alarm) (tick : UInt64) (seen : Bool) : Alarm :=
  if seen then (alarm.alert tick).1 else alarm

/-- What its own turn makes of the alarm. -/
def rise (alarm : Alarm) (tick : UInt64) (seen : Bool) : Alarm :=
  if (alarm.notice tick seen).due tick then (alarm.notice tick seen).redden
  else alarm.notice tick seen

theorem level_obey (alarm : Alarm) (command : Script.Command) :
    (alarm.obey command).level = alarm.level := by
  cases command with
  | delayAlarm ticks => exact alarm.level_delay ticks
  | _ => rfl

theorem level_obeyAll (alarm : Alarm) (cues : List Script.Cue) :
    (alarm.obeyAll cues).level = alarm.level := by
  induction cues generalizing alarm with
  | nil => rfl
  | cons cue rest ih => exact (ih (alarm.obey cue.command)).trans (alarm.level_obey cue.command)

end Alarm

/-- Whether a device is a working camera with a cell in range and in view. -/
def Device.watches (device : Device) (cell : Point) : Bool :=
  match device.equipment with
  | .camera camera =>
    device.enabled && device.position.distance cell ≤ camera.range.toNat &&
      camera.facing.covers device.position cell
  | _ => false

/-- Whether a working camera has a cell in range and in view. -/
def Roster.watches (roster : Roster) (cell : Point) : Bool :=
  roster.devices.any fun device => device.watches cell

theorem Device.sees_eq (device : Device) (player : Player) :
    device.sees player = (player.alive && device.watches player.position) := by
  cases kind : device.equipment <;> simp [sees, watches, kind, Bool.and_assoc]

theorem Roster.alarm?_of_view_eq {a b : Roster} (h : a.view Device.alarm? = b.view Device.alarm?) :
    a.alarm? = b.alarm? := by
  rw [alarm?_eq, alarm?_eq, h]

theorem World.alarmLevel_of_alarm? {world : World} {alarm : Alarm}
    (first : world.devices.alarm? = some alarm) : world.alarmLevel = alarm.level := by
  simp [alarmLevel, Roster.alarmLevel, first]

/-! ## Outside the alarm's turn -/

theorem Occurrence.change?_eq_none {occurrence : Occurrence} (h : occurrence.stage ≠ .alarm) :
    occurrence.change? = none := by
  cases occurrence <;> simp_all [stage, change?]

namespace Deeds

variable {stages : Set Stage} {world last : World} {occurrences : List Occurrence}
  (deeds : Deeds stages world occurrences last)

include deeds

theorem filterMap_change? (calm : .alarm ∉ stages) : occurrences.filterMap Occurrence.change? = [] :=
  List.filterMap_eq_nil_iff.mpr fun occurrence member =>
    occurrence.change?_eq_none (deeds.stage_ne calm occurrence member)

theorem alarm?_eq (unscripted : ∀ stage ∈ stages, stage.line? = none) (calm : .alarm ∉ stages) :
    last.devices.alarm? = world.devices.alarm? := by
  apply Roster.alarm?_of_view_eq
  apply deeds.alarms_eq calm
  intro occurrence member delayed
  obtain ⟨stage, admitted, hline⟩ := deeds.line?_eq occurrence member
  rw [unscripted stage admitted] at hline
  cases occurrence <;> simp_all [Occurrence.kind, Occurrence.line?]

end Deeds

/-! ## In sight of a camera -/

/-- Only a script line and the timers change what a camera sees. -/
theorem Device.Deed.watches_eq {world : World} {key : String} {stage : Stage}
    {device device' : Device} {occurrences : List Occurrence}
    (deed : Deed world key stage device occurrences device') (unscripted : stage.line? = none)
    (untimed : stage ≠ .timers) : device'.watches = device.watches := by
  cases deed with
  | patrolled => exact shown_patrol (fun kind _ => by funext cell; simp [watches, kind]) device
  | woken => exact absurd rfl untimed
  | _ =>
      funext cell
      simp_all [watches, Stage.line?]

/-- The same cells are in sight as long as no script line and no timer is at work. -/
theorem Deeds.watches_eq {stages : Set Stage} {world last : World} {occurrences : List Occurrence}
    (deeds : Deeds stages world occurrences last)
    (unscripted : ∀ stage ∈ stages, stage.line? = none) (untimed : .timers ∉ stages) :
    last.devices.view Device.watches = world.devices.view Device.watches := by
  refine deeds.keeps (P := fun next =>
    next.devices.view Device.watches = world.devices.view Device.watches) ?_ rfl
  intro stage before occurrences next admitted deed h
  rw [← h]
  apply deed.view_eq
  · intro key device device' deed
    exact deed.watches_eq (unscripted stage admitted) (by rintro rfl; exact untimed admitted)
  · intro device alarm alarm' kind
    funext cell
    simp [Device.watches, kind]

theorem Roster.watches_of_view_eq {a b : Roster} (h : a.view Device.watches = b.view Device.watches) :
    a.watches = b.watches := by
  have hview (roster : Roster) (cell : Point) :
      roster.watches cell = (roster.view Device.watches).any fun entry => entry.2 cell := by
    simp [watches, devices, view, List.any_map, Function.comp_def]
  funext cell
  rw [hview, hview, h]

/-- A living player is seen exactly if a camera watches the player's cell. -/
theorem World.sightings_isEmpty {world : World} (alive : world.player.alive = true) :
    (!world.sightings.isEmpty) = world.devices.watches world.player.position := by
  rw [Bool.eq_iff_iff]
  simp [sightings, Device.sees_eq, alive, Roster.watches]

/-! ## Script lines -/

namespace Tick

theorem alarm?_perform {world : World} {alarm : Alarm} (first : world.devices.alarm? = some alarm)
    (line : UInt32) (command : Script.Command) :
    (world.perform line command).1.devices.alarm? = some (alarm.obey command) := by
  have untouched (undelayed : ∀ occurrence ∈ (world.perform line command).2,
      occurrence.kind ≠ .alarmDelayApplied) :
      (world.perform line command).1.devices.alarm? = some alarm := by
    rw [← first]
    exact Roster.alarm?_of_view_eq
      ((perform_deeds world line command).alarms_eq (by simp) undelayed)
  cases command with
  | delayAlarm ticks =>
      obtain ⟨⟨key, other⟩, hentry, rfl⟩ := Option.map_eq_some_iff.mp first
      simp only [World.perform, hentry, Alarm.obey, Roster.alarm?]
      rw [World.setEquipment, World.devices_modifyDevice, Roster.alarmEntry?_modify hentry]
      rfl
  | wait => exact first
  | log => exact first
  | _ =>
      refine untouched ?_
      simp only [World.perform]
      split <;> simp [Occurrence.kind]

/-- The alarm obeys the cues of a tick one after the other. -/
theorem alarm?_runCues {world : World} {alarm : Alarm} (first : world.devices.alarm? = some alarm)
    (cues : List Script.Cue) :
    (runCues cues world).1.devices.alarm? = some (alarm.obeyAll cues) := by
  induction cues generalizing world alarm with
  | nil => exact first
  | cons cue rest ih => exact ih (alarm?_perform first cue.line cue.command)

/-! ## The alarm's turn -/

theorem alarm?_lockDoors (world : World) : (lockDoors world).1.devices.alarm? = world.devices.alarm? := by
  apply Roster.alarm?_of_view_eq
  simp [lockDoors, Roster.sweep, Roster.map, Roster.mapEntries, Roster.view, Device.alarm?_lockDown]

theorem change?_lockDoors (world : World) : (lockDoors world).2.filterMap Occurrence.change? = [] := by
  rw [List.filterMap_eq_nil_iff]
  intro occurrence member
  obtain ⟨device, -, told⟩ := List.mem_flatMap.mp member
  unfold Device.lockDown at told
  split at told
  · split at told
    · obtain rfl := List.mem_singleton.mp told
      rfl
    · simp at told
  · simp at told

/-- The sight of the player is told as a change of the level. -/
theorem alert_climb (alarm : Alarm) (tick : UInt64) (unseen : Bool) :
    let alerted := if unseen then (alarm, []) else alarm.alert tick
    alerted.1 = alarm.notice tick (!unseen) ∧
      alerted.2.filterMap Occurrence.change? = alarm.level.climb alerted.1.level := by
  have hself : alarm.level.climb alarm.level = [] := by cases alarm.level <;> rfl
  cases unseen with
  | true => exact ⟨rfl, hself.symm⟩
  | false =>
      refine ⟨rfl, ?_⟩
      by_cases calm : alarm.level = .green
      · simp [Alarm.alert, calm, Occurrence.change?, AlarmLevel.climb]
      · simp [Alarm.alert, calm, hself]

/-- Only an alarm that was not red yet can be due. -/
theorem climb_red {alarm : Alarm} {tick : UInt64} {seen : Bool}
    (due : (alarm.notice tick seen).due tick = true) :
    alarm.level.climb (alarm.notice tick seen).level ++ [(.yellow, .red)] =
      alarm.level.climb .red := by
  have alerted : (alarm.notice tick seen).level = .yellow := by
    rw [Alarm.due, Bool.and_eq_true, decide_eq_true_eq] at due
    exact due.1
  cases level : alarm.level with
  | green => simp [alerted, AlarmLevel.climb]
  | yellow => simp [alerted, AlarmLevel.climb]
  | red =>
      have hsame : alarm.notice tick seen = alarm := by
        cases seen <;> simp [Alarm.notice, Alarm.alert, level]
      rw [hsame, level] at alerted
      cases alerted

/-- On its turn the alarm rises, and each change of its level is told. -/
theorem escalate_rise {world : World} {alarm : Alarm} (first : world.devices.alarm? = some alarm) :
    (escalate world).1.devices.alarm? =
        some (alarm.rise world.tick (!world.sightings.isEmpty)) ∧
      (escalate world).2.filterMap Occurrence.change? =
        alarm.level.climb (alarm.rise world.tick (!world.sightings.isEmpty)).level := by
  obtain ⟨⟨key, other⟩, hentry, rfl⟩ := Option.map_eq_some_iff.mp first
  obtain ⟨hnotice, htold⟩ := alert_climb other world.tick world.sightings.isEmpty
  have hset (alarm' : Alarm) :
      (world.setEquipment key (.alarm alarm')).devices.alarm? = some alarm' := by
    rw [World.setEquipment, World.devices_modifyDevice, Roster.alarm?,
      Roster.alarmEntry?_modify hentry, Option.map_some]
  simp only [escalate, hentry]
  generalize (if world.sightings.isEmpty then (other, []) else other.alert world.tick) = alerted
    at hnotice htold ⊢
  rw [Alarm.rise, ← hnotice]
  by_cases due : alerted.1.due world.tick = true
  · simp only [due, ite_true, turnRed, alarm?_lockDoors, hset, List.filterMap_append, htold,
      List.filterMap_cons, change?_lockDoors, Occurrence.change?, true_and]
    rw [hnotice] at due ⊢
    exact climb_red due
  · simp only [due, ite_false, hset, htold, Bool.false_eq_true, and_self]

end Tick

end Infiltration
