import Infiltration.Proofs.Tick.Alarm
import Mathlib.Algebra.GroupWithZero.Nat

/-! # The course of an alarm

The time of an alarm is that of the first sight, the escalation, the buffer and all delays given by then,
in one exact sum that stops at the largest word. An alarm that obeys its cues and takes its turns keeps
to this time: it makes no difference whether a delay went into the buffer or moved the deadline. -/

namespace Infiltration

/-! ## The time of an alarm -/

namespace Script

/-- The sum of the delays that cues give. -/
def delays (cues : List Cue) : ℕ := (cues.map fun cue => cue.command.delay).sum

/-- The sum of the delays that are given before a tick. -/
def delayBefore (cues : List Cue) (tick : ℕ) : ℕ :=
  delays (cues.filter fun cue => cue.tick.toNat < tick)

/-- The sum of the delays that are given by a tick. -/
def delayUntil (cues : List Cue) (tick : ℕ) : ℕ :=
  delays (cues.filter fun cue => cue.tick.toNat ≤ tick)

theorem delayBefore_succ (cues : List Cue) (tick : ℕ) :
    delayBefore cues (tick + 1) = delayUntil cues tick := by
  simp only [delayBefore, delayUntil, Nat.lt_succ_iff]

/-- By a tick the delays of the tick itself have come to those before it. -/
theorem delayUntil_eq (cues : List Cue) (tick : UInt64) :
    delayUntil cues tick.toNat =
      delayBefore cues tick.toNat + delays (cues.filter fun cue => cue.tick = tick) := by
  induction cues with
  | nil => rfl
  | cons cue rest ih =>
      have hsame : cue.tick = tick ↔ cue.tick.toNat = tick.toNat := UInt64.toNat_inj.symm
      simp only [delayUntil, delayBefore, delays, List.filter_cons, hsame] at ih ⊢
      rcases Nat.lt_trichotomy cue.tick.toNat tick.toNat with h | h | h
      · simp [h, Nat.le_of_lt h, Nat.ne_of_lt h, ih]
        omega
      · simp [h, ih]
        omega
      · simp [Nat.not_lt_of_gt h, Nat.not_le_of_gt h, Nat.ne_of_gt h, ih]

end Script

def AlarmLevel.rank : AlarmLevel → ℕ
  | green => 0
  | yellow => 1
  | red => 2

namespace Alarm

variable (alarm : Alarm) (cues : List Script.Cue)

/-- The time of an alarm that is first alerted on a tick has come by another. -/
def Overdue (first tick : ℕ) : Prop :=
  first ≤ tick ∧
    min (UInt64.size - 1) (first + alarm.escalation.toNat + alarm.delayBuffer.toNat +
      Script.delayUntil cues tick) ≤ tick

instance (first tick : ℕ) : Decidable (alarm.Overdue cues first tick) :=
  inferInstanceAs (Decidable (_ ∧ _))

/-- The level on a tick of an alarm that is first alerted on another. -/
def levelAt (first tick : ℕ) : AlarmLevel :=
  if tick < first then .green
  else if ∃ due ≤ tick, alarm.Overdue cues first due then .red
  else .yellow

/-- The changes of the level on a tick of an alarm that is first alerted on another. -/
def changesAt (first tick : ℕ) : List (AlarmLevel × AlarmLevel) :=
  (if tick = first then [(.green, .yellow)] else []) ++
    if alarm.Overdue cues first tick ∧ ∀ due < tick, ¬alarm.Overdue cues first due then
      [(.yellow, .red)]
    else []

variable {alarm cues} {first tick : ℕ}

theorem Overdue.first_le (overdue : alarm.Overdue cues first tick) : first ≤ tick := overdue.1

theorem levelAt_of_lt (early : tick < first) : alarm.levelAt cues first tick = .green := if_pos early

theorem changesAt_of_lt (early : tick < first) : alarm.changesAt cues first tick = [] := by
  have hidle : ¬alarm.Overdue cues first tick := fun overdue => Nat.not_le_of_lt early overdue.first_le
  simp [changesAt, Nat.ne_of_lt early, hidle]

theorem levelAt_of_patient (begun : first ≤ tick)
    (patient : ∀ due < tick + 1, ¬alarm.Overdue cues first due) :
    alarm.levelAt cues first tick = .yellow := by
  have hpatient : ¬∃ due ≤ tick, alarm.Overdue cues first due := by
    rintro ⟨due, hdue, overdue⟩
    exact patient due (Nat.lt_succ_of_le hdue) overdue
  rw [levelAt, if_neg (Nat.not_lt_of_le begun), if_neg hpatient]

theorem levelAt_of_overdue {due : ℕ} (before : due < tick + 1)
    (overdue : alarm.Overdue cues first due) : alarm.levelAt cues first tick = .red := by
  have hdue : due ≤ tick := Nat.le_of_lt_succ before
  rw [levelAt, if_neg (Nat.not_lt_of_le (overdue.first_le.trans hdue)), if_pos ⟨due, hdue, overdue⟩]

theorem changesAt_of_patient (patient : ∀ due < tick + 1, ¬alarm.Overdue cues first due) :
    alarm.changesAt cues first tick = if tick = first then [(.green, .yellow)] else [] := by
  simp [changesAt, patient tick (Nat.lt_succ_self tick)]

theorem changesAt_of_due (patient : ∀ due < tick, ¬alarm.Overdue cues first due)
    (overdue : alarm.Overdue cues first tick) :
    alarm.changesAt cues first tick =
      (if tick = first then [(.green, .yellow)] else []) ++ [(.yellow, .red)] := by
  simp only [changesAt, overdue, true_and, if_pos patient]

theorem changesAt_of_overdue {due : ℕ} (before : due < tick)
    (overdue : alarm.Overdue cues first due) : alarm.changesAt cues first tick = [] := by
  have hfirst : tick ≠ first := Nat.ne_of_gt (Nat.lt_of_le_of_lt overdue.first_le before)
  have hlate : ¬∀ other < tick, ¬alarm.Overdue cues first other :=
    fun patient => patient due before overdue
  simp only [changesAt, hfirst, hlate, and_false, ite_false, List.append_nil]

/-- An alarm never steps back. -/
theorem rank_levelAt_mono {later : ℕ} (hle : tick ≤ later) :
    (alarm.levelAt cues first tick).rank ≤ (alarm.levelAt cues first later).rank := by
  unfold levelAt
  by_cases early : tick < first
  · rw [if_pos early]
    exact Nat.zero_le _
  · rw [if_neg early, if_neg (by omega : ¬later < first)]
    split
    · rename_i hred
      obtain ⟨due, hdue, overdue⟩ := hred
      rw [if_pos ⟨due, hdue.trans hle, overdue⟩]
    · split <;> simp [AlarmLevel.rank]

end Alarm

/-! ## The course of an alarm -/

/-- How far an alarm has come when a tick begins, after so many ticks of delay and a first sight of the
player, if there has been one. -/
inductive Alarm.Course (authored : Alarm) (cues : List Script.Cue) (now delay : ℕ) :
    Option ℕ → Alarm → Prop where
  | calm {alarm} (level : alarm.level = .green) (escalation : alarm.escalation = authored.escalation)
      (buffer : alarm.delayBuffer.toNat =
        min (UInt64.size - 1) (authored.delayBuffer.toNat + delay)) :
      Course authored cues now delay none alarm
  | alerted {alarm first deadline} (before : first < now) (level : alarm.level = .yellow)
      (timed : alarm.redAt = some deadline)
      (deadline_eq : deadline.toNat = min (UInt64.size - 1)
        (first + authored.escalation.toNat + authored.delayBuffer.toNat + delay))
      (patient : ∀ due < now, ¬authored.Overdue cues first due) :
      Course authored cues now delay (some first) alarm
  | raised {alarm first due} (level : alarm.level = .red) (before : due < now)
      (overdue : authored.Overdue cues first due) : Course authored cues now delay (some first) alarm

namespace Alarm.Course

variable {authored alarm alarm' : Alarm} {cues : List Script.Cue} {now delay delay' : ℕ}
  {first : Option ℕ}

/-- A delay counts the same in the buffer and on the deadline. -/
theorem obey (course : authored.Course cues now delay first alarm) (command : Script.Command) :
    authored.Course cues now (delay + command.delay) first (alarm.obey command) := by
  cases command with
  | delayAlarm ticks =>
      cases course with
      | calm level escalation buffer =>
          have hdelay : alarm.delay ticks =
              { alarm with delayBuffer := Capped.add64 alarm.delayBuffer ticks } := by
            simp [Alarm.delay, level]
          simp only [Alarm.obey, hdelay]
          refine .calm level escalation ?_
          simp only [Capped.toNat_add64, buffer, Script.Command.delay]
          omega
      | @alerted _ _ deadline before level timed deadline_eq patient =>
          have hdelay : alarm.delay ticks =
              { alarm with redAt := some (Capped.add64 deadline ticks) } := by
            simp [Alarm.delay, level, timed]
          simp only [Alarm.obey, hdelay]
          refine .alerted before level rfl ?_ patient
          simp only [Capped.toNat_add64, deadline_eq, Script.Command.delay]
          omega
      | raised level before overdue =>
          exact .raised ((Alarm.level_delay alarm ticks).trans level) before overdue
  | _ => exact course

theorem obeyAll (course : authored.Course cues now delay first alarm) (given : List Script.Cue) :
    authored.Course cues now (delay + Script.delays given) first (alarm.obeyAll given) := by
  induction given generalizing alarm delay with
  | nil => exact course
  | cons cue rest ih =>
      have h := ih (course.obey cue.command)
      rwa [Nat.add_assoc] at h

/-- An alerted alarm turns red on its turn exactly if its time has come. -/
theorem rise_of_alerted {tick deadline : UInt64} {sight : ℕ} (htick : tick.toNat = now)
    (before : sight ≤ now) (level : alarm.level = .yellow) (timed : alarm.redAt = some deadline)
    (deadline_eq : deadline.toNat = min (UInt64.size - 1) (sight + authored.escalation.toNat +
      authored.delayBuffer.toNat + Script.delayUntil cues now))
    (patient : ∀ due < now, ¬authored.Overdue cues sight due) :
    authored.Course cues (now + 1) (Script.delayUntil cues now) (some sight)
      (if alarm.due tick then alarm.redden else alarm) := by
  have hdue : alarm.due tick = true ↔ authored.Overdue cues sight now := by
    rw [Alarm.due, timed, level, Overdue, ← deadline_eq, ← htick]
    simp [UInt64.le_iff_toNat_le, htick, before]
  by_cases due : alarm.due tick = true
  · rw [if_pos due]
    exact .raised rfl (Nat.lt_succ_self now) (hdue.mp due)
  · rw [if_neg due]
    refine .alerted (Nat.lt_succ_of_le before) level timed deadline_eq ?_
    intro other hother
    rcases Nat.lt_succ_iff_lt_or_eq.mp hother with hother | rfl
    · exact patient other hother
    · exact fun overdue => due (hdue.mpr overdue)

/-- On its turn an alarm goes on with its course, which a sight begins if it has not begun. -/
theorem rise {tick : UInt64} (htick : tick.toNat = now)
    (course : authored.Course cues now (Script.delayUntil cues now) first alarm) (seen : Bool) :
    authored.Course cues (now + 1) (Script.delayUntil cues now)
      (first.or (if seen then some now else none)) (alarm.rise tick seen) := by
  cases course with
  | calm level escalation buffer =>
      cases seen with
      | false =>
          have hidle : alarm.rise tick false = alarm := by
            simp [Alarm.rise, Alarm.notice, Alarm.due, level]
          rw [hidle]
          exact .calm level escalation buffer
      | true =>
          have hunalerted : ∀ due < now, ¬authored.Overdue cues now due :=
            fun due hdue overdue => Nat.not_le_of_lt hdue overdue.1
          have hnotice : (alarm.notice tick true).level = .yellow ∧
              (alarm.notice tick true).redAt =
                some (Capped.add64 (Capped.add64 tick alarm.escalation) alarm.delayBuffer) := by
            simp [Alarm.notice, Alarm.alert, level]
          refine rise_of_alerted htick le_rfl hnotice.1 hnotice.2 ?_ hunalerted
          -- The buffer and the deadline stop at the largest word, and so does the one sum.
          simp only [Capped.toNat_add64, htick, escalation, buffer]
          omega
  | alerted before level timed deadline_eq patient =>
      have hnotice : alarm.notice tick seen = alarm := by
        cases seen <;> simp [Alarm.notice, Alarm.alert, level]
      rw [Alarm.rise, hnotice]
      exact rise_of_alerted htick (Nat.le_of_lt before) level timed deadline_eq patient
  | raised level before overdue =>
      have hidle : alarm.rise tick seen = alarm := by
        cases seen <;> simp [Alarm.rise, Alarm.notice, Alarm.alert, Alarm.due, level]
      rw [hidle]
      exact .raised level (Nat.lt_succ_of_lt before) overdue

/-- After a tick the course of an alarm tells its level. -/
theorem level_eq (course : authored.Course cues (now + 1) delay first alarm) :
    alarm.level = first.elim .green fun sight => authored.levelAt cues sight now := by
  cases course with
  | calm level => exact level
  | alerted before level _ _ patient =>
      exact level.trans (Alarm.levelAt_of_patient (Nat.le_of_lt_succ before) patient).symm
  | raised level before overdue =>
      exact level.trans (Alarm.levelAt_of_overdue before overdue).symm

/-- The courses before and after a tick tell how the level changes in it. -/
theorem climb_eq (before : authored.Course cues now delay first alarm) {seen : Bool}
    (after : authored.Course cues (now + 1) delay' (first.or (if seen then some now else none))
      alarm') :
    alarm.level.climb alarm'.level =
      (first.or (if seen then some now else none)).elim []
        fun sight => authored.changesAt cues sight now := by
  cases before with
  | calm level =>
      cases seen with
      | false =>
          cases after with
          | calm level' => simp [level, level', AlarmLevel.climb]
      | true =>
          cases after with
          | alerted _ level' _ _ patient =>
              simp [level, level', AlarmLevel.climb, Alarm.changesAt_of_patient patient]
          | @raised _ _ due level' hdue overdue =>
              obtain rfl : due = now := Nat.le_antisymm (Nat.le_of_lt_succ hdue) overdue.first_le
              have patient : ∀ other < due, ¬authored.Overdue cues due other :=
                fun other hother early => Nat.not_le_of_lt hother early.first_le
              simp [level, level', AlarmLevel.climb, Alarm.changesAt_of_due patient overdue]
  | @alerted _ sight _ before level _ _ patient =>
      rw [Option.some_or] at after ⊢
      have hsight : now ≠ sight := Nat.ne_of_gt before
      cases after with
      | alerted _ level' _ _ patient' =>
          simp [level, level', AlarmLevel.climb, Alarm.changesAt_of_patient patient', hsight]
      | @raised _ _ due level' hdue overdue =>
          have hnow : due = now := by
            by_contra hne
            exact patient due (Nat.lt_of_le_of_ne (Nat.le_of_lt_succ hdue) hne) overdue
          subst hnow
          simp [level, level', AlarmLevel.climb, Alarm.changesAt_of_due patient overdue, hsight]
  | @raised _ sight due level hdue overdue =>
      rw [Option.some_or] at after ⊢
      cases after with
      -- Whoever is overdue stays so, and an alerted alarm is not.
      | alerted _ _ _ _ patient => exact absurd overdue (patient due (Nat.lt_succ_of_lt hdue))
      | raised level' =>
          simp [level, level', AlarmLevel.climb, Alarm.changesAt_of_overdue hdue overdue]

end Alarm.Course

end Infiltration
