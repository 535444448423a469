import Infiltration.Proofs.Level
import Infiltration.Script.Compile

/-! # What the cues of a script can rely on

A script that compiles has its cues on lines of their own, all before the limit, and names only
devices that the level has and that are of the right type. -/

namespace Infiltration

namespace Script

/-! ## Lines -/

theorem toNat_lineNumber {position : ℕ} (h : position < UInt32.size) :
    (lineNumber position).toNat = position := by
  rw [lineNumber, Nat.min_eq_right (Nat.le_sub_one_of_lt h), UInt32.toNat_ofNat',
    Nat.mod_eq_of_lt h]

theorem line_of_readLine {position : ℕ} {raw : List Char} {statement : Statement}
    (h : readLine position raw = some (.ok statement)) : statement.line = lineNumber position := by
  unfold readLine at h
  split at h
  · cases h
  · split at h
    · cases h
      rfl
    · cases h

/-- The statements on lines of which the first has the given position. -/
def statementsFrom (position : ℕ) (lines : List (List Char)) : List Statement :=
  (readLines position lines).filterMap statement?

theorem statementsFrom_cons (position : ℕ) (raw : List Char) (rest : List (List Char)) :
    statementsFrom position (raw :: rest) =
      ((readLine position raw).bind statement?).toList ++ statementsFrom (position + 1) rest := by
  rw [statementsFrom, readLines, List.filterMap_append]
  cases readLine position raw with
  | none => rfl
  | some result => cases result <;> rfl

theorem statement_of_mem_toList {position : ℕ} {raw : List Char} {statement : Statement}
    (h : statement ∈ ((readLine position raw).bind statement?).toList) :
    statement.line = lineNumber position := by
  rw [Option.mem_toList, Option.bind_eq_some_iff] at h
  obtain ⟨result, hread, hresult⟩ := h
  cases result with
  | error => cases hresult
  | ok other =>
      cases hresult
      exact line_of_readLine hread

theorem le_line {position : ℕ} {lines : List (List Char)}
    (few : position + lines.length ≤ UInt32.size)
    {statement : Statement} (member : statement ∈ statementsFrom position lines) :
    position ≤ statement.line.toNat := by
  induction lines generalizing position with
  | nil => cases member
  | cons raw rest ih =>
      rw [List.length_cons] at few
      rw [statementsFrom_cons, List.mem_append] at member
      rcases member with member | member
      · have h := congrArg UInt32.toNat (statement_of_mem_toList member)
        rw [toNat_lineNumber (by omega)] at h
        exact Nat.le_of_eq h.symm
      · exact Nat.le_of_succ_le (ih (by omega) member)

/-- Later statements have larger line numbers, as long as there are numbers. -/
theorem pairwise_line {position : ℕ} {lines : List (List Char)}
    (few : position + lines.length ≤ UInt32.size) :
    ((statementsFrom position lines).map Statement.line).Pairwise (· < ·) := by
  rw [List.pairwise_map]
  induction lines generalizing position with
  | nil => exact .nil
  | cons raw rest ih =>
      rw [List.length_cons] at few
      rw [statementsFrom_cons, List.pairwise_append]
      refine ⟨?_, ih (by omega), ?_⟩
      · cases (readLine position raw).bind statement? <;> simp
      · intro first hfirst later hlater
        rw [UInt32.lt_iff_toNat_lt, statement_of_mem_toList hfirst, toNat_lineNumber (by omega)]
        exact le_line (by omega) hlater

theorem nodup_lines {source : String} (few : (trimmedLines source).length < UInt32.size) :
    ((read source).statements.map Statement.line).Nodup := by
  have hincrease :
      ((statementsFrom 1 (trimmedLines source)).map Statement.line).Pairwise (· < ·) :=
    pairwise_line (by omega)
  exact hincrease.imp fun hlt => UInt32.ne_of_lt hlt

/-! ## Ticks -/

theorem lines_scheduleFrom (tick : UInt64) (statements : List Statement) :
    (scheduleFrom tick statements).map Cue.line = statements.map Statement.line := by
  induction statements generalizing tick with
  | nil => rfl
  | cons statement rest ih => simp [scheduleFrom, ih]

theorem commands_scheduleFrom (tick : UInt64) (statements : List Statement) :
    (scheduleFrom tick statements).map Cue.command = statements.map Statement.command := by
  induction statements generalizing tick with
  | nil => rfl
  | cons statement rest ih => simp [scheduleFrom, ih]

private theorem le_max_word (a b : UInt64) : a ≤ max a b ∧ b ≤ max a b := by
  change a ≤ (if a ≤ b then b else a) ∧ b ≤ (if a ≤ b then b else a)
  split
  · exact ⟨‹_›, UInt64.le_refl b⟩
  · rename_i h
    exact ⟨UInt64.le_refl a, UInt64.le_of_lt (UInt64.not_le.mp h)⟩

private theorem le_foldl_max (cues : List Cue) (first : UInt64) :
    first ≤ cues.foldl (fun last cue => max last cue.tick) first ∧
      ∀ cue ∈ cues, cue.tick ≤ cues.foldl (fun last cue => max last cue.tick) first := by
  induction cues generalizing first with
  | nil => simp
  | cons cue rest ih =>
      obtain ⟨hfirst, hrest⟩ := ih (max first cue.tick)
      obtain ⟨hleft, hright⟩ := le_max_word first cue.tick
      refine ⟨UInt64.le_trans hleft hfirst, ?_⟩
      intro other member
      rcases List.mem_cons.mp member with rfl | member
      · exact UInt64.le_trans hright hfirst
      · exact hrest other member

theorem le_lastTick {cues : List Cue} {cue : Cue} (member : cue ∈ cues) :
    cue.tick ≤ lastTick cues :=
  (le_foldl_max cues 0).2 cue member

theorem tick_lt_of_withinLimit {limit : UInt64} {cues scheduled : List Cue}
    (h : withinLimit limit scheduled = .ok cues) :
    scheduled = cues ∧ ∀ cue ∈ cues, cue.tick < limit := by
  unfold withinLimit at h
  split at h
  · cases h
  · rename_i hlate
    cases h
    refine ⟨rfl, ?_⟩
    intro cue member
    have hne : cues.isEmpty = false := by
      cases cues <;> simp_all
    simp only [hne, Bool.not_false, Bool.true_and, decide_eq_true_eq, UInt64.not_le] at hlate
    exact UInt64.lt_of_le_of_lt (le_lastTick member) hlate

/-! ## Devices -/

/-- Among devices of these types a command finds what it names. -/
structure Command.Served (types : List (String × DeviceType)) (command : Command) : Prop where
  device : ∀ id, command.device? = some id → ∃ type, (id, type) ∈ types ∧
    ∀ required, command.requiredType? = some required → type = required
  alarm : ∀ ticks, command = .delayAlarm ticks → ∃ id, (id, .alarm) ∈ types

theorem served_of_commandProblems {level : Level} {constraints : Constraints} {command : Command}
    (h : commandProblems level constraints command = []) : command.Served level.types where
  device := by
    intro id hid
    have hproblems := (List.append_eq_nil_iff.mp h).2
    simp only [deviceProblems, hid] at hproblems
    cases hdevice : level.device? id with
    | none => simp [hdevice] at hproblems
    | some device =>
        refine ⟨device.type, Level.mem_types_of_device? hdevice, ?_⟩
        intro required hrequired
        by_contra hne
        simp only [hdevice, hrequired] at hproblems
        split at hproblems <;> simp_all
  alarm := by
    rintro ticks rfl
    have hproblems := (List.append_eq_nil_iff.mp h).1
    simp only [amountProblems] at hproblems
    have hvisible : level.alarmInScope = true := by
      by_contra hnone
      simp [hnone] at hproblems
    obtain ⟨device, member, -⟩ := List.any_eq_true.mp hvisible
    obtain ⟨hlisted, htype⟩ := List.mem_filter.mp member
    exact ⟨device.id, List.mem_map.mpr ⟨device, hlisted, by rw [of_decide_eq_true htype]⟩⟩

theorem served_of_inspect {level : Level} {constraints : Constraints} {statements : List Statement}
    (h : inspect level constraints statements = []) :
    ∀ statement ∈ statements, statement.command.Served level.types := by
  intro statement member
  have hnone := List.flatMap_eq_nil_iff.mp (List.append_eq_nil_iff.mp h).2 statement member
  exact served_of_commandProblems (List.map_eq_nil_iff.mp hnone)

/-! ## Compilation -/

/-- What a script's cues can rely on under a limit. -/
structure Reliable (level : Level) (limit : UInt64) (cues : List Cue) : Prop where
  lines_nodup : (cues.map Cue.line).Nodup
  tick_lt : ∀ cue ∈ cues, cue.tick < limit
  served : ∀ cue ∈ cues, cue.command.Served level.types

theorem reliable_of_compile {level : Level} {options : Options} {source : String} {cues : List Cue}
    (few : (trimmedLines source).length < UInt32.size)
    (h : compile level options source = .ok cues) :
    Reliable level (level.constraints.limitUnder options.ceiling) cues := by
  simp only [compile] at h
  split at h
  · cases h
  · split at h
    · cases h
    · rename_i hinspect
      obtain ⟨hcues, hticks⟩ := tick_lt_of_withinLimit h
      have hfound := served_of_inspect (List.isEmpty_iff.mp (by simpa using hinspect))
      refine ⟨?_, hticks, ?_⟩
      · rw [← hcues, schedule, lines_scheduleFrom]
        exact nodup_lines few
      · intro cue member
        have hcommand := List.mem_map_of_mem (f := Cue.command) member
        rw [← hcues, schedule, commands_scheduleFrom] at hcommand
        obtain ⟨statement, hstatement, heq⟩ := List.mem_map.mp hcommand
        exact heq ▸ hfound statement hstatement

end Script

end Infiltration
