import Infiltration.Proofs.Tick.Series

/-! # What waits for the red alarm

In one tick the alarm rises from green only at the sight of the player, and doors are locked down only
when it turns red. A turret takes its turn only if its trigger or the alarm lets it. -/

namespace Infiltration

namespace Roster

theorem lookup_view {α : Type} (shown : Device → α) (roster : Roster) (key : String) :
    (roster.view shown).lookup key = (roster.find? key).map shown := by
  simp only [view, find?]
  induction roster.entries with
  | nil => rfl
  | cons entry rest ih =>
      obtain ⟨other, device⟩ := entry
      by_cases h : key = other
      · subst h
        simp
      · simp [List.lookup_cons, beq_eq_false_iff_ne.mpr h, ih]

theorem part?_of_view_eq {α : Type} {shown : Device → Option α} {a b : Roster}
    (h : a.view shown = b.view shown) (key : String) : a.part? key shown = b.part? key shown := by
  have hpart (roster : Roster) :
      roster.part? key shown = ((roster.view shown).lookup key).bind id := by
    simp [part?, lookup_view, Option.bind_map]
  rw [hpart, hpart, h]

end Roster

/-! ## Deeds without violence -/

namespace Occurrence

/-- The turret that has locked, fired, killed or destroyed. -/
def shooter? : Occurrence → Option String
  | targetLocked turret _ => some turret
  | turretFired turret _ => some turret
  | playerKilled turret => some turret
  | droneDestroyed _ turret => some turret
  | _ => none

/-- The door that the alarm has closed. -/
def lockedDoor? : Occurrence → Option String
  | doorLockedDown door => some door
  | _ => none

/-- No turret acts, and the alarm closes no door. -/
def Peaceful (occurrence : Occurrence) : Prop :=
  occurrence.shooter? = none ∧ occurrence.lockedDoor? = none

@[simp] theorem peaceful_alarmChanged (old new : AlarmLevel) : (alarmChanged old new).Peaceful :=
  ⟨rfl, rfl⟩

end Occurrence

/-- All stages but those of the alarm and of the turrets. -/
def Stage.peaceful : Set Stage := {stage | stage ≠ .alarm ∧ stage ≠ .turrets}

theorem Occurrence.peaceful_of_stage {occurrence : Occurrence}
    (h : occurrence.stage ∈ Stage.peaceful) : occurrence.Peaceful := by
  cases occurrence <;> simp_all [stage, Stage.peaceful, Peaceful, shooter?, lockedDoor?]

theorem Deeds.peaceful {world last : World} {occurrences : List Occurrence}
    (deeds : Deeds Stage.peaceful world occurrences last) :
    ∀ occurrence ∈ occurrences, occurrence.Peaceful :=
  fun occurrence member => occurrence.peaceful_of_stage (deeds.stage_mem occurrence member)

/-! ## The alarm -/

namespace World

theorem alarmLevel_of_first {world : World} {key : String} {alarm : Alarm}
    (first : world.devices.alarmEntry? = some (key, alarm)) : world.alarmLevel = alarm.level := by
  simp [alarmLevel, Roster.alarmLevel, Roster.alarm?, first]

theorem alarmLevel_setEquipment {world : World} {key : String} {alarm alarm' : Alarm}
    (first : world.devices.alarmEntry? = some (key, alarm)) :
    (world.setEquipment key (.alarm alarm')).alarmLevel = alarm'.level :=
  alarmLevel_of_first (Roster.alarmEntry?_modify first)

end World

theorem Device.alarm?_lockDown (device : Device) : device.lockDown.1.alarm? = device.alarm? := by
  unfold lockDown
  split
  · rename_i door kind
    split <;> simp [alarm?, kind]
  · rfl

namespace Tick

theorem alarmLevel_lockDoors (world : World) : (lockDoors world).1.alarmLevel = world.alarmLevel := by
  apply Roster.alarmLevel_of_view_eq
  simp [lockDoors, Roster.sweep, Roster.map, Roster.mapEntries, Roster.view, Device.alarm?_lockDown]

theorem alarmLevel_turnRed {world : World} {key : String} {alarm alarm' : Alarm}
    (first : world.devices.alarmEntry? = some (key, alarm)) :
    (turnRed key alarm' world).1.alarmLevel = .red :=
  (alarmLevel_lockDoors _).trans (World.alarmLevel_setEquipment first)

/-- What can become of the alarm in a tick, and what is told of it. What is told after it has turned
red is left open. -/
inductive Escalation (world next : World) : List Occurrence → Prop where
  | none (same : next.alarmLevel = world.alarmLevel) : Escalation world next []
  | toYellow (calm : world.alarmLevel = .green) (seen : world.sightings ≠ [])
      (yellow : next.alarmLevel = .yellow) : Escalation world next [.alarmChanged .green .yellow]
  | toRed (locks) (alerted : world.alarmLevel = .yellow) (red : next.alarmLevel = .red) :
      Escalation world next (.alarmChanged .yellow .red :: locks)
  | through (locks) (calm : world.alarmLevel = .green) (seen : world.sightings ≠ [])
      (red : next.alarmLevel = .red) :
      Escalation world next (.alarmChanged .green .yellow :: .alarmChanged .yellow .red :: locks)

/-- More than the alarm's changes is told only if it ends red. -/
theorem Escalation.red_of_mem {world next : World} {occurrences : List Occurrence}
    (rise : Escalation world next occurrences) {occurrence : Occurrence}
    (member : occurrence ∈ occurrences) (violent : ¬occurrence.Peaceful) :
    next.alarmLevel = .red := by
  cases rise with
  | none => simp at member
  | toYellow =>
      obtain rfl := List.mem_singleton.mp member
      exact absurd (Occurrence.peaceful_alarmChanged _ _) violent
  | toRed _ _ red => exact red
  | through _ _ _ red => exact red

/-- An alarm that has no reason to turn yellow is left alone. -/
theorem alert_of_idle {world : World} {alarm : Alarm}
    (idle : ¬(alarm.level = .green ∧ world.sightings ≠ [])) :
    (if world.sightings.isEmpty then (alarm, []) else alarm.alert world.tick) = (alarm, []) := by
  by_cases seen : world.sightings = []
  · simp [seen]
  · have calm : alarm.level ≠ .green := fun h => idle ⟨h, seen⟩
    simp [seen, Alarm.alert, calm]

theorem escalate_escalation (world : World) :
    Escalation world (escalate world).1 (escalate world).2 := by
  cases first : world.devices.alarmEntry? with
  | none =>
      simp only [escalate, first]
      exact .none rfl
  | some entry =>
      obtain ⟨key, alarm⟩ := entry
      have hlevel := World.alarmLevel_of_first first
      by_cases rising : alarm.level = .green ∧ world.sightings ≠ []
      · obtain ⟨calm, seen⟩ := rising
        have hseen : world.sightings.isEmpty = false := by simpa using seen
        have htold : (alarm.alert world.tick).2 = [.alarmChanged .green .yellow] := by
          simp [Alarm.alert, calm]
        have hyellow : (alarm.alert world.tick).1.level = .yellow := by simp [Alarm.alert, calm]
        simp only [escalate, first, hseen, Bool.false_eq_true, ite_false, htold]
        split
        · exact .through _ (hlevel.trans calm) seen (alarmLevel_turnRed first)
        · exact .toYellow (hlevel.trans calm) seen
            ((World.alarmLevel_setEquipment first).trans hyellow)
      · simp only [escalate, first, alert_of_idle rising]
        split
        · rename_i due
          have hyellow : alarm.level = .yellow := by simp_all [Alarm.due]
          exact .toRed _ (hlevel.trans hyellow) (alarmLevel_turnRed first)
        · exact .none ((World.alarmLevel_setEquipment first).trans hlevel.symm)

/-! ## Turrets -/

/-- An act of a turret that may engage in a world. -/
def Warranted (world : World) (occurrence : Occurrence) : Prop :=
  ∃ key trigger, occurrence.shooter? = some key ∧
    world.devices.part? key Device.trigger? = some trigger ∧
      (trigger = .always ∨ world.alarmLevel = .red)

theorem announceLock_told (turret : Turret) (key target : String) :
    ∀ occurrence ∈ turret.announceLock key target, occurrence.shooter? = some key := by
  unfold Turret.announceLock
  split <;> simp [Occurrence.shooter?]

theorem shoot_told (key : String) (target : Target) (world : World) :
    ∀ occurrence ∈ (world.shoot key target).2, occurrence.shooter? = some key := by
  cases target with
  | player =>
      simp only [World.shoot]
      split <;> simp [Occurrence.shooter?]
  | drone id =>
      simp only [World.shoot]
      split
      · split <;> simp [Occurrence.shooter?]
      · simp

theorem engage_told (key : String) (turret : Turret) (target : Target) (world : World) :
    ∀ occurrence ∈ (engage key turret target world).2, occurrence.shooter? = some key := by
  intro occurrence member
  simp only [engage] at member
  split at member
  · exact announceLock_told turret key target.id occurrence member
  · rcases List.mem_append.mp member with member | member
    · exact announceLock_told turret key target.id occurrence member
    · rcases List.mem_cons.mp member with rfl | member
      · rfl
      · exact shoot_told key target _ occurrence member

theorem turretTurn_told (key : String) (world : World) :
    ∀ occurrence ∈ (turretTurn (world.alarmLevel = .red) key world).2, Warranted world occurrence := by
  intro occurrence member
  unfold turretTurn at member
  split at member
  · rename_i device found
    split at member
    · rename_i turret on hview
      have htrigger : world.devices.part? key Device.trigger? = some turret.trigger := by
        simp [Roster.part?, found, Device.trigger?, hview]
      by_cases armed : turret.active (world.alarmLevel = .red) = true
      · rw [if_pos armed] at member
        have hwarrant : turret.trigger = .always ∨ world.alarmLevel = .red := by
          simpa [Turret.active] using armed
        cases aim : world.target? device.position turret with
        | none => simp [aim] at member
        | some target =>
            rw [aim] at member
            exact ⟨key, turret.trigger, engage_told key turret target world occurrence member,
              htrigger, hwarrant⟩
      · simp [if_neg armed] at member
    · simp at member
  · simp at member

/-- What every phase tells, wherever a property holds that the phases keep, their series tells. -/
theorem inOrder_told {P : World → Prop} {Q : Occurrence → Prop} {phases : List Phase}
    (kept : ∀ phase ∈ phases, ∀ world, P world → P (phase world).1)
    (told : ∀ phase ∈ phases, ∀ world, P world → ∀ occurrence ∈ (phase world).2, Q occurrence)
    {world : World} (h : P world) : ∀ occurrence ∈ (inOrder phases world).2, Q occurrence := by
  induction phases generalizing world with
  | nil => simp [inOrder_nil]
  | cons phase rest ih =>
      intro occurrence member
      rcases List.mem_append.mp member with member | member
      · exact told phase List.mem_cons_self world h occurrence member
      · exact ih (fun other hother => kept other (List.mem_cons_of_mem _ hother))
          (fun other hother => told other (List.mem_cons_of_mem _ hother))
          (kept phase List.mem_cons_self world h) occurrence member

/-- Every occurrence of the turrets' phase is an act of a turret that may engage. -/
theorem runTurrets_told (world : World) :
    ∀ occurrence ∈ (runTurrets world).2, Warranted world occurrence := by
  let alike (next : World) : Prop := next.alarmLevel = world.alarmLevel ∧
    next.devices.view Device.trigger? = world.devices.view Device.trigger?
  refine inOrder_told (P := alike) ?_ ?_ ⟨rfl, rfl⟩
  · intro phase member next ⟨hlevel, hview⟩
    obtain ⟨key, -, rfl⟩ := List.mem_map.mp member
    have hdeeds : Deeds {.turrets} next _ (turretTurn (world.alarmLevel = .red) key next).1 :=
      turretTurn_deeds key (by rw [hlevel])
    exact ⟨(alarmLevel_of_turrets hdeeds).trans hlevel, hdeeds.triggers_eq.trans hview⟩
  · intro phase member next ⟨hlevel, hview⟩ occurrence hmem
    obtain ⟨key, -, rfl⟩ := List.mem_map.mp member
    rw [← hlevel] at hmem
    obtain ⟨shooter, trigger, hshooter, hpart, hwarrant⟩ := turretTurn_told key next occurrence hmem
    rw [hlevel] at hwarrant
    rw [Roster.part?_of_view_eq hview] at hpart
    exact ⟨shooter, trigger, hshooter, hpart, hwarrant⟩

end Tick

end Infiltration
