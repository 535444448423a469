import Infiltration.Proofs.Run.Explanation

/-! # The lock in the story of a kill

A turret that kills the player has locked on the player before. The story of the kill goes by the last
lock up to the tick of the kill, whosever it is. It tells of the killer's own lock unless another
turret has locked on since. -/

namespace Infiltration

attribute [local irreducible] Mission.opening Mission.closing

namespace FailureSummary

/-- A story closes with a lock and with the shot of a turret. -/
def ClosesWith (locker target turret : String) (summary : FailureSummary) : Prop :=
  ["Turret " ++ locker ++ " acquired target " ++ target, "Turret " ++ turret ++ " fired on player"] <:+
    summary.causeChain

instance (locker target turret : String) (summary : FailureSummary) :
    Decidable (summary.ClosesWith locker target turret) :=
  inferInstanceAs (Decidable (_ <:+ _))

/-- The story of a kill by a turret, with what stands in the log before and after the kill. -/
structure TellsLock (front back : Log) (turret : String) (summary : FailureSummary) : Prop where
  /-- The turret has a lock of its own on the player, which no mark of it follows before the shot. -/
  own : ∃ older lock between shot, front = older ++ lock :: (between ++ [shot]) ∧
    lock.IsLock turret "player" ∧ shot.IsShot turret "player" ∧ ∀ event ∈ between, ¬event.IsMark turret
  /-- The story tells of the last lock before the kill, unless a lock follows on the kill. -/
  latest : ∃ lock locker target, lock.IsLock locker target ∧ summary.ClosesWith locker target turret ∧
    (lock ∈ back ∨ ∃ older since, front = older ++ lock :: since ∧
      ∀ event ∈ since, event.kind ≠ .turretTargetLock)
  /-- It tells of the turret's own lock if no other lock follows on that. -/
  undisturbed : ∀ older lock since, front = older ++ lock :: since → lock.IsLock turret "player" →
    (∀ event ∈ since ++ back, event.kind ≠ .turretTargetLock) →
      summary.ClosesWith turret "player" turret

theorem closesWith_ofKill {log : Log} {kill lock : Event} {locker target turret : String}
    (killed : kill.IsKill turret) (locked : lock.IsLock locker target)
    (late : ∀ event ∈ log, event.tick ≤ kill.tick)
    (last : log.findLast? .turretTargetLock = some lock) :
    (ofKill log kill).ClosesWith locker target turret := by
  rw [ClosesWith, causeChain_ofKill, lockStep_eq late locked last, killed.2, Option.getD_some, List.append_assoc]
  exact List.suffix_append _ _

end FailureSummary

/-- The story of every kill tells of a lock as it should. -/
def RunResult.TellsLocks (result : RunResult) : Prop :=
  ∀ front kill back turret, result.events = front ++ kill :: back → kill.IsKill turret →
    ∃ summary ∈ result.failureSummary, summary.TellsLock front back turret

/-- The story of every kill tells of the killer's own lock. -/
def RunResult.TellsOwnLocks (result : RunResult) : Prop :=
  ∀ kill ∈ result.events, ∀ turret, kill.IsKill turret →
    ∃ summary ∈ result.failureSummary, summary.ClosesWith turret "player" turret

theorem Log.findLast?_append (front back : Log) (kind : EventKind) :
    findLast? (front ++ back) kind = (findLast? back kind).or (front.findLast? kind) := by
  simp only [findLast?, List.reverse_append, List.find?_append]

namespace Mission

variable {mission : Mission} {front back : Log} {kill : Event} {turret : String}
  (heq : (mission.after mission.duration).log = front ++ kill :: back) (killed : kill.IsKill turret)

include heq killed

/-- The player is killed once, so that the story is that of the kill. -/
theorem ofLog_of_kill : FailureSummary.ofLog (mission.after mission.duration).log =
    FailureSummary.ofKill (mission.after mission.duration).log kill := by
  apply FailureSummary.ofLog_of_killed
  refine Log.findLast?_eq_some.mpr ⟨killed.1, front, back, heq, fun other member again => ?_⟩
  have honce : (Log.ofKind (front ++ kill :: back) .playerKilled).length ≤ 1 := by
    rw [← heq]
    exact le_trans (Nat.le_add_left ..) mission.length_ends_le_one
  have hback : 0 < (Log.ofKind back .playerKilled).length := exists_kind_iff.mp ⟨other, member, again⟩
  simp only [Log.ofKind, List.filter_append, List.length_append, List.filter_cons, killed.1,
    decide_true, if_true, List.length_cons] at honce hback
  omega

/-- Who is killed fails. -/
theorem failed_of_kill : (mission.after mission.duration).world.outcome = .failure := by
  have dead := mission.exists_killed_iff.mp ⟨kill, by simp [heq], killed.1⟩
  have inside := mission.oneFate_last.resolve_left (by simp [dead])
  exact mission.outcome_eq_failure.mpr ⟨inside, .inl dead⟩

theorem tick_le_of_kill : ∀ event ∈ (mission.after mission.duration).log, event.tick ≤ kill.tick := by
  have member : kill ∈ (mission.after mission.duration).log := by simp [heq]
  exact fun event hevent =>
    mission.tick_le_of_mem_last hevent (mission.mem_last_of_killed member killed.1)

/-- Before a kill stands its shot, and before the shot its lock. -/
theorem lock_of_kill (unheld : mission.level.Unheld) (distinct : mission.level.NoNamesake) :
    ∃ older lock between shot, front = older ++ lock :: (between ++ [shot]) ∧
      lock.IsLock turret "player" ∧ shot.IsShot turret "player" ∧
        ∀ event ∈ between, ¬event.IsMark turret := by
  obtain ⟨shooter, target, before, shot, rfl, fired, hit⟩ :=
    mission.shotsHit_duration.preceded front kill back heq (by simp [killed.1])
  obtain ⟨rfl, kill'⟩ : target = "player" ∧ kill.IsKill shooter := by
    refine hit.resolve_right fun wreck => ?_
    cases killed.1.symm.trans wreck.1
  obtain rfl : shooter = turret := Option.some.inj (kill'.2.symm.trans killed.2)
  rw [List.append_assoc, List.singleton_append] at heq
  obtain ⟨-, -, older, lock, between, rfl, hlock, -, hbetween⟩ :=
    (locksTimed_duration unheld distinct).locked before shot (kill :: back) heq shooter "player" fired
  exact ⟨older, lock, between, shot, by simp, hlock, fired, hbetween⟩

theorem tellsLock_of_kill (unheld : mission.level.Unheld) (distinct : mission.level.NoNamesake) :
    (FailureSummary.ofLog (mission.after mission.duration).log).TellsLock front back turret := by
  have late := tick_le_of_kill heq killed
  obtain ⟨older, own, between, shot, hfront, hown, hshot, hbetween⟩ :=
    lock_of_kill heq killed unheld distinct
  have hlast : Log.findLast? (front ++ kill :: back) .turretTargetLock =
      (Log.findLast? back .turretTargetLock).or (front.findLast? .turretTargetLock) := by
    have hkill : kill.kind ≠ .turretTargetLock := by simp [killed.1]
    rw [← List.singleton_append, ← List.append_assoc, Log.findLast?_append, Log.findLast?_append]
    simp [Log.findLast?, hkill]
  rw [ofLog_of_kill heq killed]
  refine ⟨⟨older, own, between, shot, hfront, hown, hshot, hbetween⟩, ?_, ?_⟩
  · obtain ⟨lock, hlock⟩ : ∃ lock, (mission.after mission.duration).log.findLast? .turretTargetLock =
        some lock :=
      Option.isSome_iff_exists.mp (Log.isSome_findLast?.mpr ⟨own, by simp [heq, hfront], hown.1⟩)
    obtain ⟨locker, target, locked⟩ := (mission.legible_log lock (Log.mem_of_findLast? hlock)).locked
      (Log.findLast?_eq_some.mp hlock).1
    refine ⟨lock, locker, target, locked, FailureSummary.closesWith_ofKill killed locked late hlock, ?_⟩
    rw [heq, hlast, Option.or_eq_some_iff] at hlock
    exact hlock.imp Log.mem_of_findLast? fun hfront => (Log.findLast?_eq_some.mp hfront.2).2
  · rintro older lock since rfl locked silent
    refine FailureSummary.closesWith_ofKill killed locked late
      (Log.findLast?_eq_some.mpr ⟨locked.1, older, since ++ kill :: back, by simp [heq], ?_⟩)
    intro event member
    rcases List.mem_append.mp member with member | member
    · exact silent event (List.mem_append_left _ member)
    · rcases List.mem_cons.mp member with rfl | member
      · simp [killed.1]
      · exact silent event (List.mem_append_right _ member)

end Mission

/-- Where no turret starts with a hold and no drone goes by the player's name, the story of a kill tells
of the last lock before it, which is the killer's own or another turret's since. -/
theorem simulate_tellsLocks (level : Level) (cues : List Script.Cue) (config : Config)
    (unheld : level.Unheld) (distinct : level.NoNamesake) :
    (simulate level cues config).TellsLocks := by
  have hdistinct : (Mission.of level cues config).level.NoNamesake := distinct
  rw [RunResult.simulate_eq]
  intro front kill back turret heq killed
  refine ⟨_, ?_, Mission.tellsLock_of_kill heq killed unheld hdistinct⟩
  rw [RunResult.failureSummary_ofEngine, if_pos (Mission.failed_of_kill heq killed), Option.mem_some]

theorem simulate_flyby_tellsLocks :
    (flyby "decoy").fault? = none ∧ (flyby "decoy").Unheld ∧ (flyby "decoy").NoNamesake ∧
      (∃ event ∈ (simulate (flyby "decoy") [] { storeDigests := false }).events,
        event.IsKill "sentry") ∧
        (simulate (flyby "decoy") [] { storeDigests := false }).TellsLocks := by
  have unheld : (flyby "decoy").Unheld := by decide +kernel
  have distinct : (flyby "decoy").NoNamesake := by decide +kernel
  exact ⟨by decide +kernel, unheld, distinct, by decide +kernel,
    simulate_tellsLocks (flyby "decoy") [] { storeDigests := false } unheld distinct⟩

/-- The player stands in range of two turrets, of which the first is the quicker one. -/
def crossfire : Level where
  id := "crossfire"
  map := { width := 3, height := 1 }
  entry := ⟨1, 0⟩
  exit := ⟨2, 0⟩
  playerPath := [⟨1, 0⟩]
  devices := [.newTurret "quick" ⟨0, 0⟩ 1 2 .always, .newTurret "slow" ⟨2, 0⟩ 1 3 .always]
  networkScope := []
  constraints := { maxLines := 4, maxCommands := 4, maxDelay := 4, tickLimit := 4 }

/-- Both turrets lock on the player on the first tick. The quick one kills, and the story tells of the
lock of the slow one. -/
theorem not_tellsOwnLocks_crossfire :
    crossfire.fault? = none ∧ crossfire.Unheld ∧ (∀ device ∈ crossfire.devices, device.id ≠ "player") ∧
      (∃ kill ∈ (simulate crossfire [] { storeDigests := false }).events, kill.IsKill "quick" ∧
        ∃ summary ∈ (simulate crossfire [] { storeDigests := false }).failureSummary,
          summary.ClosesWith "slow" "player" "quick") ∧
        ¬(simulate crossfire [] { storeDigests := false }).TellsOwnLocks := by
  refine ⟨by decide +kernel, by decide +kernel, by decide +kernel, by decide +kernel, fun own => ?_⟩
  have hkill : ∃ kill ∈ (simulate crossfire [] { storeDigests := false }).events,
      kill.IsKill "quick" := by decide +kernel
  have hother : ¬∃ summary ∈ (simulate crossfire [] { storeDigests := false }).failureSummary,
      summary.ClosesWith "quick" "player" "quick" := by decide +kernel
  obtain ⟨kill, member, killed⟩ := hkill
  exact hother (own kill member "quick" killed)

end Infiltration
