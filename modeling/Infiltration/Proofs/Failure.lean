import Infiltration.Event.Occurrence
import Infiltration.Failure

/-! # What a failure is told from

The story of a failed run is told from the events of six kinds. It takes no notice of other events, nor
of the numbers under which the events are entered. -/

namespace Infiltration

/-- The event without its number. -/
def Event.unnumbered (event : Event) : Event := { event with id := 0 }

@[simp] theorem Event.tick_unnumbered (event : Event) : event.unnumbered.tick = event.tick := rfl

@[simp] theorem Event.text?_unnumbered (event : Event) (key : String) :
    event.unnumbered.text? key = event.text? key := rfl

namespace Log

/-- The events of some kinds, without their numbers. -/
def bare (kinds : EventKind → Bool) (log : Log) : List Event :=
  (log.filter fun event => kinds event.kind).map Event.unnumbered

variable (kinds : EventKind → Bool)

theorem bare_flatMap {α : Type} (parts : List α) (log : α → Log) :
    bare kinds (parts.flatMap log) = parts.flatMap fun part => bare kinds (log part) := by
  simp only [bare, List.filter_flatMap, List.map_flatMap]

theorem bare_enterFrom (entered : Nat) (tick : UInt64) (occurrences : List Occurrence) :
    bare kinds (enterFrom entered tick occurrences) =
      (occurrences.filter fun occurrence => kinds occurrence.kind).map
        fun occurrence => occurrence.event 0 tick := by
  induction occurrences generalizing entered with
  | nil => rfl
  | cons occurrence rest ih =>
      have hkind (id : UInt64) : (occurrence.event id tick).kind = occurrence.kind := rfl
      simp only [bare] at ih ⊢
      cases h : kinds occurrence.kind with
      | true =>
          simp only [enterFrom, List.filter_cons, hkind, h, if_true, List.map_cons, ih]
          rfl
      | false => simp [enterFrom, hkind, h, ih]

end Log

/-! ## Evidence -/

/-- Whether the story of a failure can turn on an event of a kind. -/
def EventKind.telling : EventKind → Bool
  | alarmStateChanged | cameraDetectedPlayer | turretTargetLock | playerKilled | playerBlockedByDoor
  | runTimeout => true
  | _ => false

namespace Log

/-- The events that a story can turn on. -/
def evidence (log : Log) : List Event := log.bare EventKind.telling

theorem findLast?_map_unnumbered (log : Log) (kind : EventKind) :
    findLast? (log.map Event.unnumbered) kind = (log.findLast? kind).map Event.unnumbered := by
  rw [findLast?, findLast?, ← List.map_reverse, List.find?_map]
  rfl

theorem findLast?_filter (log : Log) {kind : EventKind} {p : Event → Bool}
    (h : ∀ event, event.kind = kind → p event = true) :
    findLast? (log.filter p) kind = log.findLast? kind := by
  rw [findLast?, findLast?, ← List.filter_reverse, List.find?_filter]
  congr 1
  funext event
  grind

theorem findLast?_evidence (log : Log) (kind : EventKind) (telling : kind.telling = true) :
    findLast? log.evidence kind = (log.findLast? kind).map Event.unnumbered := by
  rw [evidence, bare, findLast?_map_unnumbered, findLast?_filter]
  rintro event rfl
  exact telling

theorem findLastUntil?_evidence (log : Log) (kind : EventKind) (tick : UInt64)
    (telling : kind.telling = true) :
    findLastUntil? log.evidence kind tick =
      (log.findLastUntil? kind tick).map Event.unnumbered := by
  have hfilter : log.evidence.filter (fun event => event.tick ≤ tick) =
      evidence (log.filter fun event => event.tick ≤ tick) := by
    rw [evidence, evidence, bare, bare, List.filter_map, List.filter_filter, List.filter_filter]
    congr 2
    funext event
    exact Bool.and_comm _ _
  rw [findLastUntil?, findLastUntil?, hfilter, findLast?_evidence _ _ telling]

end Log

/-! ## The last event of a kind -/

namespace Log

variable {log : Log} {kind : EventKind} {tick : UInt64} {event : Event}

theorem findLast?_eq_some : log.findLast? kind = some event ↔
    event.kind = kind ∧
      ∃ front back, log = front ++ event :: back ∧ ∀ other ∈ back, other.kind ≠ kind := by
  rw [findLast?, List.find?_eq_some_iff_append, decide_eq_true_eq]
  refine and_congr_right fun _ => ⟨?_, ?_⟩
  · rintro ⟨later, earlier, heq, h⟩
    refine ⟨earlier.reverse, later.reverse, ?_, by simpa using h⟩
    rw [← List.reverse_reverse log, heq]
    simp
  · rintro ⟨front, back, rfl, h⟩
    exact ⟨back.reverse, front.reverse, by simp, by simpa using h⟩

theorem findLast?_eq_none : log.findLast? kind = none ↔ ∀ event ∈ log, event.kind ≠ kind := by
  simp [findLast?, List.find?_eq_none]

theorem mem_of_findLast? (h : log.findLast? kind = some event) : event ∈ log := by
  obtain ⟨-, front, back, rfl, -⟩ := findLast?_eq_some.mp h
  simp

theorem isSome_findLast? : (log.findLast? kind).isSome = true ↔ ∃ event ∈ log, event.kind = kind := by
  rw [← Option.ne_none_iff_isSome, ne_eq, findLast?_eq_none]
  simp

/-- Where no event is later than a tick, the last until the tick is the last of all. -/
theorem findLastUntil?_of_le (late : ∀ event ∈ log, event.tick ≤ tick) :
    log.findLastUntil? kind tick = log.findLast? kind := by
  rw [findLastUntil?, List.filter_eq_self.mpr (by simpa using late)]

/-- If none of a kind follows on one that has a property, the last one has it as soon as any has. -/
theorem any_findLast? {p : Event → Bool}
    (final : log.Pairwise fun a b => a.kind = kind → b.kind = kind → p a = false) :
    (log.findLast? kind).any p = true ↔ ∃ event ∈ log, event.kind = kind ∧ p event = true := by
  cases h : log.findLast? kind with
  | none =>
      have hnone := findLast?_eq_none.mp h
      simp only [Option.any_none, Bool.false_eq_true, false_iff, not_exists, not_and]
      exact fun event member hkind => absurd hkind (hnone event member)
  | some last =>
      obtain ⟨hlast, front, back, rfl, hback⟩ := findLast?_eq_some.mp h
      rw [List.pairwise_append] at final
      rw [Option.any_some]
      constructor
      · exact fun hp => ⟨last, by simp, hlast, hp⟩
      · rintro ⟨event, member, hkind, hp⟩
        rcases List.mem_append.mp member with member | member
        · have hfalse := final.2.2 event member last List.mem_cons_self hkind hlast
          exact absurd (hp.symm.trans hfalse) Bool.noConfusion
        · rcases List.mem_cons.mp member with rfl | member
          · exact hp
          · exact absurd hkind (hback event member)

theorem any_findLastUntil? {p : Event → Bool}
    (final : log.Pairwise fun a b => a.kind = kind → b.kind = kind → p a = false) :
    (log.findLastUntil? kind tick).any p = true ↔
      ∃ event ∈ log, event.tick ≤ tick ∧ event.kind = kind ∧ p event = true := by
  rw [findLastUntil?, any_findLast? (final.filter _)]
  simp only [List.mem_filter, decide_eq_true_eq, and_assoc]

end Log

/-! ## The steps of a story -/

namespace FailureSummary

variable {log : Log} {tick : UInt64} {kill block : Event} {text : String}

theorem mem_cameraStep : text ∈ cameraStep log tick ↔
    ∃ camera, lastCamera? log tick = some camera ∧ text = "Camera " ++ camera ++ " detected player" := by
  rw [cameraStep]
  split <;> simp_all

theorem mem_redStep : text ∈ redStep log tick ↔
    (log.findLastUntil? .alarmStateChanged tick).any turnedRed = true ∧
      text = "Alarm escalated to RED" := by
  rw [redStep]
  split <;> simp_all

theorem mem_lockStep : text ∈ lockStep log tick ↔
    ∃ lock, log.findLastUntil? .turretTargetLock tick = some lock ∧
      text = "Turret " ++ (lock.text? "turretId").getD "unknown turret" ++ " acquired target " ++
        (lock.text? "targetId").getD "unknown target" := by
  rw [lockStep]
  split <;> simp_all

theorem length_cameraStep_le (log : Log) (tick : UInt64) : (cameraStep log tick).length ≤ 1 := by
  rw [cameraStep]
  split <;> simp

theorem length_redStep_le (log : Log) (tick : UInt64) : (redStep log tick).length ≤ 1 := by
  rw [redStep]
  split <;> simp

theorem length_lockStep_le (log : Log) (tick : UInt64) : (lockStep log tick).length ≤ 1 := by
  rw [lockStep]
  split <;> simp

theorem length_steps_le (log : Log) (tick : UInt64) :
    (cameraStep log tick ++ redStep log tick ++ lockStep log tick).length ≤ 3 := by
  have hcamera := length_cameraStep_le log tick
  have hred := length_redStep_le log tick
  have hlock := length_lockStep_le log tick
  rw [List.length_append, List.length_append]
  omega

/-- The story of a death has a step for each of its four parts at most, so that none is cut off. -/
theorem causeChain_ofKill : (ofKill log kill).causeChain =
    cameraStep log kill.tick ++ redStep log kill.tick ++ lockStep log kill.tick ++
      ["Turret " ++ (kill.text? "turretId").getD "unknown turret" ++ " fired on player"] := by
  rw [ofKill, latest, Nat.sub_eq_zero_of_le, List.drop_zero]
  rw [List.length_append, List.length_singleton]
  exact Nat.succ_le_succ (length_steps_le log kill.tick)

theorem length_causeChain_ofKill :
    1 ≤ (ofKill log kill).causeChain.length ∧ (ofKill log kill).causeChain.length ≤ 4 := by
  rw [causeChain_ofKill, List.length_append, List.length_singleton]
  exact ⟨Nat.le_add_left 1 _, Nat.succ_le_succ (length_steps_le log kill.tick)⟩

theorem exists_camera_mem_ofKill :
    (∃ camera, "Camera " ++ camera ++ " detected player" ∈ (ofKill log kill).causeChain) ↔
      (lastCamera? log kill.tick).isSome = true := by
  simp only [causeChain_ofKill, List.mem_append, mem_cameraStep, mem_redStep, mem_lockStep,
    List.mem_singleton, Option.isSome_iff_exists]
  constructor
  · rintro ⟨camera, ((⟨other, h, -⟩ | ⟨-, h⟩) | ⟨lock, -, h⟩) | h⟩
    · exact ⟨other, h⟩
    · simp [← String.toList_inj] at h
    · simp [← String.toList_inj] at h
    · simp [← String.toList_inj] at h
  · rintro ⟨camera, h⟩
    exact ⟨camera, .inl (.inl (.inl ⟨camera, h, rfl⟩))⟩

theorem red_mem_ofKill : "Alarm escalated to RED" ∈ (ofKill log kill).causeChain ↔
    (log.findLastUntil? .alarmStateChanged kill.tick).any turnedRed = true := by
  simp only [causeChain_ofKill, List.mem_append, mem_cameraStep, mem_redStep, mem_lockStep,
    List.mem_singleton]
  constructor
  · rintro (((⟨camera, -, h⟩ | ⟨h, -⟩) | ⟨lock, -, h⟩) | h)
    · simp [← String.toList_inj] at h
    · exact h
    · simp [← String.toList_inj] at h
    · simp [← String.toList_inj] at h
  · exact fun h => .inl (.inl (.inr ⟨h, trivial⟩))

theorem red_mem_ofBlock : "Alarm escalated to RED" ∈ (ofBlock log block).causeChain ↔
    (log.findLastUntil? .alarmStateChanged block.tick).any turnedRed = true := by
  unfold ofBlock
  simp [mem_redStep, ← String.toList_inj]

theorem length_causeChain_ofBlock :
    1 ≤ (ofBlock log block).causeChain.length ∧ (ofBlock log block).causeChain.length ≤ 4 := by
  have hred := length_redStep_le log block.tick
  have hlength : (ofBlock log block).causeChain.length = (redStep log block.tick).length + 1 :=
    List.length_append
  rw [hlength]
  exact ⟨Nat.le_add_left 1 _, by omega⟩

/-! ## Which story is told -/

theorem ofLog_of_killed (killed : log.findLast? .playerKilled = some kill) :
    ofLog log = ofKill log kill := by
  unfold ofLog
  rw [killed]

theorem ofLog_of_blocked (alive : ∀ event ∈ log, event.kind ≠ .playerKilled)
    (blocked : log.findLast? .playerBlockedByDoor = some block) :
    ofLog log = ofBlock log block := by
  unfold ofLog
  rw [Log.findLast?_eq_none.mpr alive, blocked]

theorem ofLog_of_timeout (alive : ∀ event ∈ log, event.kind ≠ .playerKilled)
    (free : ∀ event ∈ log, event.kind ≠ .playerBlockedByDoor)
    (late : ∃ event ∈ log, event.kind = .runTimeout) : ofLog log = ofTimeout := by
  unfold ofLog
  rw [Log.findLast?_eq_none.mpr alive, Log.findLast?_eq_none.mpr free]
  exact if_pos (Log.isSome_findLast?.mpr late)

theorem length_causeChain_ofLog :
    1 ≤ (ofLog log).causeChain.length ∧ (ofLog log).causeChain.length ≤ 4 := by
  unfold ofLog
  split
  · exact length_causeChain_ofKill
  · split
    · exact length_causeChain_ofBlock
    · split <;> exact ⟨Nat.le_refl 1, by decide⟩

/-- Where the log tells of a death or of the end of the time, the failure is explained. -/
theorem primaryCause_ofLog_ne
    (told : ∃ event ∈ log, event.kind = .playerKilled ∨ event.kind = .runTimeout) :
    (ofLog log).primaryCause ≠ "Run failed" := by
  unfold ofLog
  split
  · simp [ofKill, ← String.toList_inj]
  · rename_i alive
    split
    · unfold ofBlock
      simp [← String.toList_inj]
    · obtain ⟨event, member, killed | late⟩ := told
      · exact absurd killed (Log.findLast?_eq_none.mp alive event member)
      · rw [if_pos (Log.isSome_findLast?.mpr ⟨event, member, late⟩)]
        decide

end FailureSummary

/-! ## Stories told from the evidence -/

namespace FailureSummary

variable (log : Log) (tick : UInt64) (event : Event)

theorem redStep_evidence : redStep log.evidence tick = redStep log tick := by
  simp only [redStep, Log.findLastUntil?_evidence log .alarmStateChanged tick rfl, Option.any_map]
  rfl

theorem lastCamera?_evidence : lastCamera? log.evidence tick = lastCamera? log tick := by
  simp only [lastCamera?, Log.findLastUntil?_evidence log .cameraDetectedPlayer tick rfl,
    Option.bind_map]
  rfl

theorem lockStep_evidence : lockStep log.evidence tick = lockStep log tick := by
  simp only [lockStep, Log.findLastUntil?_evidence log .turretTargetLock tick rfl]
  cases log.findLastUntil? .turretTargetLock tick with
  | none => simp only [Option.map_none]
  | some lock => simp only [Option.map_some, Event.text?_unnumbered]

theorem ofKill_evidence : ofKill log.evidence event.unnumbered = ofKill log event := by
  simp only [ofKill, cameraStep, redStep_evidence, lastCamera?_evidence, lockStep_evidence,
    Event.tick_unnumbered, Event.text?_unnumbered]

theorem ofBlock_evidence : ofBlock log.evidence event.unnumbered = ofBlock log event := by
  unfold ofBlock
  simp only [redStep_evidence, Event.tick_unnumbered, Event.text?_unnumbered]

/-- A failure is told from the evidence as from the whole log. -/
theorem ofLog_evidence : ofLog log.evidence = ofLog log := by
  simp only [ofLog, Log.findLast?_evidence log .playerKilled rfl,
    Log.findLast?_evidence log .playerBlockedByDoor rfl,
    Log.findLast?_evidence log .runTimeout rfl, Option.isSome_map]
  cases log.findLast? .playerKilled with
  | some kill => exact ofKill_evidence log kill
  | none =>
      cases log.findLast? .playerBlockedByDoor with
      | some block => exact ofBlock_evidence log block
      | none => rfl

end FailureSummary

end Infiltration
