import Infiltration.Proofs.Script.Acceptance
import Mathlib.Data.List.Flatten

/-! # What an inspection reports

Apart from the budget, whose diagnostics come first, an inspection reports a line exactly if the
command on it breaks a rule. What it reports of a command depends on no other command. -/

namespace Infiltration.Script

/-! ## The rules -/

/-- The rules that a command can break on a level where amounts have an upper bound. Of several
devices with one id the first counts. The target of a turret matters only if the terminal reaches the
turret. -/
inductive Command.Breaks (level : Level) (most : ℕ) (command : Command) : Prop where
  | amount_zero {ticks : UInt64} (given : command.amount? = some ticks) (zero : ticks.toNat = 0)
  | amount_long {ticks : UInt64} (given : command.amount? = some ticks) (long : most < ticks.toNat)
  | alarm_hidden {ticks : UInt64} (asked : command = .delayAlarm ticks)
      (hidden : ∀ device ∈ level.devices, device.type = .alarm → device.id ∉ level.networkScope)
  | device_unknown {id : String} (named : command.device? = some id)
      (unknown : ∀ device ∈ level.devices, device.id ≠ id)
  | device_hidden {id : String} (named : command.device? = some id) (hidden : id ∉ level.networkScope)
  | device_type {id : String} {device : Device} {type : DeviceType}
      (named : command.device? = some id)
      (first : level.devices.find? (fun device => device.id = id) = some device)
      (required : command.requiredType? = some type) (wrong : device.type ≠ type)
  | target_unknown {turret target : String} (asked : command = .retargetTurret turret target)
      (reached : ∃ type, Reaches level turret type)
      (unknown : ∀ device ∈ level.devices, device.id ≠ target)
  | target_type {turret target : String} {device : Device}
      (asked : command = .retargetTurret turret target)
      (reached : ∃ type, Reaches level turret type)
      (first : level.devices.find? (fun device => device.id = target) = some device)
      (wrong : device.type ≠ .drone)

/-! ## The two parts of a report -/

/-- How many of the two budgets a number of statements exceeds. -/
def overruns (constraints : Constraints) (count : ℕ) : ℕ :=
  (if constraints.maxLines.toNat < count then 1 else 0) +
    if constraints.maxCommands.toNat < count then 1 else 0

variable (level : Level) (constraints : Constraints) (statements : List Statement)

/-- The diagnostics of the budget. -/
def budgetReport : List Diagnostic :=
  (inspect level constraints statements).take (overruns constraints statements.length)

/-- The diagnostics after those of the budget. -/
def report : List Diagnostic :=
  (inspect level constraints statements).drop (overruns constraints statements.length)

/-- An inspection goes command by command. -/
structure Precise : Prop where
  budget_count : (budgetReport level constraints statements).length =
    overruns constraints statements.length
  budget_line : ∀ diagnostic ∈ budgetReport level constraints statements, diagnostic.line = 1
  reported_iff : ∀ line : UInt32,
    (∃ diagnostic ∈ report level constraints statements, diagnostic.line = line) ↔
      ∃ statement ∈ statements, statement.line = line ∧
        statement.command.Breaks level constraints.maxDelay.toNat
  /-- What is reported of a command is what is reported of it where it is the only one. -/
  alone : ∀ statement ∈ statements,
    (report level constraints statements).filter (fun diagnostic => diagnostic.line = statement.line) =
      report level constraints [statement]
  ordered : ((inspect level constraints statements).map Diagnostic.line).Pairwise (· ≤ ·)
  /-- Further commands hide nothing. -/
  nothing_hidden : ∀ fewer, fewer.Sublist statements →
    (report level constraints fewer).Sublist (report level constraints statements)

variable {level} {constraints} {statements} {command : Command} {id target : String}

/-! ## Rules and problems -/

theorem amountProblems_eq_nil :
    amountProblems level constraints command = [] ↔
      (∀ ticks, command.amount? = some ticks → Within constraints.maxDelay.toNat ticks) ∧
        ∀ ticks, command = .delayAlarm ticks →
          ∃ device ∈ level.devices, device.type = .alarm ∧ device.id ∈ level.networkScope := by
  cases command with
  | disableCamera camera duration =>
      cases duration <;> simp [amountProblems, Command.amount?, delayProblems_eq_nil]
  | delayAlarm ticks =>
      simp [amountProblems, Command.amount?, delayProblems_eq_nil, alarmInScope_iff, and_comm]
  | _ => simp [amountProblems, Command.amount?, delayProblems_eq_nil]

theorem find?_id_eq_none :
    level.devices.find? (fun device => device.id = id) = none ↔
      ∀ device ∈ level.devices, device.id ≠ id := by
  simp

/-- A command is reported if it breaks a rule. -/
theorem commandProblems_of_breaks (broken : command.Breaks level constraints.maxDelay.toNat) :
    commandProblems level constraints command ≠ [] := by
  intro h
  rw [commandProblems, List.append_eq_nil_iff, amountProblems_eq_nil] at h
  obtain ⟨⟨hamount, halarm⟩, hdevice⟩ := h
  have hreached {id : String} (named : command.device? = some id) :=
    (deviceProblems_eq_nil named).mp hdevice
  cases broken with
  | amount_zero given zero => exact absurd (hamount _ given).1 (by omega)
  | amount_long given long => exact absurd (hamount _ given).2 (by omega)
  | alarm_hidden asked hidden =>
      obtain ⟨device, member, type, inScope⟩ := halarm _ asked
      exact hidden device member type inScope
  | device_unknown named unknown =>
      obtain ⟨⟨-, ⟨-, device, first, -⟩, -⟩, -⟩ := hreached named
      rw [find?_id_eq_none.mpr unknown] at first
      cases first
  | device_hidden named hidden =>
      obtain ⟨⟨-, ⟨inScope, -⟩, -⟩, -⟩ := hreached named
      exact hidden inScope
  | device_type named first required wrong =>
      obtain ⟨⟨type, ⟨-, device, found, rfl⟩, right⟩, -⟩ := hreached named
      cases first.symm.trans found
      exact wrong (right _ required)
  | target_unknown asked reached unknown =>
      subst asked
      obtain ⟨device, found, -⟩ := targetProblems_eq_nil.mp ((hreached rfl).2 _ rfl)
      rw [find?_id_eq_none.mpr unknown] at found
      cases found
  | target_type asked reached first wrong =>
      subst asked
      obtain ⟨device, found, drone⟩ := targetProblems_eq_nil.mp ((hreached rfl).2 _ rfl)
      cases first.symm.trans found
      exact wrong drone

theorem reaches_of_not_breaks (lawful : ¬command.Breaks level constraints.maxDelay.toNat)
    (named : command.device? = some id) : ∃ type, Reaches level id type ∧
      ∀ required, command.requiredType? = some required → type = required := by
  have inScope : id ∈ level.networkScope := by
    by_contra hidden
    exact lawful (.device_hidden named hidden)
  cases first : level.devices.find? (fun device => device.id = id) with
  | none => exact absurd (.device_unknown named (find?_id_eq_none.mp first)) lawful
  | some device =>
      refine ⟨device.type, ⟨inScope, device, first, rfl⟩, fun type required => ?_⟩
      by_contra wrong
      exact lawful (.device_type named first required wrong)

theorem targetProblems_of_not_breaks (lawful : ¬command.Breaks level constraints.maxDelay.toNat)
    (aimed : command.target? = some target) : targetProblems level target = [] := by
  cases command with
  | retargetTurret turret other =>
      cases aimed
      have named : (Command.retargetTurret turret target).device? = some turret := rfl
      obtain ⟨type, reached, -⟩ := reaches_of_not_breaks lawful named
      rw [targetProblems_eq_nil]
      cases first : level.devices.find? (fun device => device.id = target) with
      | none =>
          exact absurd (.target_unknown rfl ⟨type, reached⟩ (find?_id_eq_none.mp first)) lawful
      | some device =>
          refine ⟨device, rfl, ?_⟩
          by_contra wrong
          exact lawful (.target_type rfl ⟨type, reached⟩ first wrong)
  | _ => cases aimed

theorem commandProblems_ne_nil_iff :
    commandProblems level constraints command ≠ [] ↔
      command.Breaks level constraints.maxDelay.toNat := by
  refine ⟨fun problems => ?_, commandProblems_of_breaks⟩
  by_contra lawful
  refine problems (List.append_eq_nil_iff.mpr ⟨amountProblems_eq_nil.mpr ⟨?_, ?_⟩, ?_⟩)
  · intro ticks given
    refine ⟨Nat.pos_of_ne_zero fun zero => lawful (.amount_zero given zero), ?_⟩
    exact Nat.le_of_not_lt fun long => lawful (.amount_long given long)
  · intro ticks asked
    by_contra hidden
    refine lawful (.alarm_hidden asked fun device member type inScope => ?_)
    exact hidden ⟨device, member, type, inScope⟩
  · cases named : command.device? with
    | none => simp [deviceProblems, named]
    | some id =>
        exact (deviceProblems_eq_nil named).mpr
          ⟨reaches_of_not_breaks lawful named, fun _ => targetProblems_of_not_breaks lawful⟩

/-! ## Reports command by command -/

/-- What is reported of one command. -/
def findings (level : Level) (constraints : Constraints) (statement : Statement) : List Diagnostic :=
  (commandProblems level constraints statement.command).map (Problem.on · statement.line)

theorem length_budgetProblems (count : ℕ) :
    (budgetProblems constraints count).length = overruns constraints count := by
  unfold budgetProblems overruns
  split <;> split <;> rfl

theorem budgetReport_eq : budgetReport level constraints statements =
    (budgetProblems constraints statements.length).map (Problem.on · 1) := by
  rw [budgetReport, inspect, List.take_left' (by rw [List.length_map, length_budgetProblems])]

theorem report_eq : report level constraints statements =
    statements.flatMap (findings level constraints) := by
  rw [report, inspect, List.drop_left' (by rw [List.length_map, length_budgetProblems])]
  rfl

theorem inspect_eq : inspect level constraints statements =
    budgetReport level constraints statements ++ report level constraints statements :=
  (List.take_append_drop _ _).symm

theorem line_of_mem_findings {statement : Statement} {diagnostic : Diagnostic}
    (member : diagnostic ∈ findings level constraints statement) :
    diagnostic.line = statement.line := by
  obtain ⟨problem, -, rfl⟩ := List.mem_map.mp member
  rfl

theorem line_of_mem_budgetReport {diagnostic : Diagnostic}
    (member : diagnostic ∈ budgetReport level constraints statements) : diagnostic.line = 1 := by
  rw [budgetReport_eq] at member
  obtain ⟨problem, -, rfl⟩ := List.mem_map.mp member
  rfl

theorem exists_mem_findings {statement : Statement} :
    (∃ diagnostic, diagnostic ∈ findings level constraints statement) ↔
      statement.command.Breaks level constraints.maxDelay.toNat := by
  rw [← commandProblems_ne_nil_iff, ne_eq, ← List.map_eq_nil_iff (f := (Problem.on · statement.line))]
  exact ⟨fun ⟨_, member⟩ => List.ne_nil_of_mem member, List.exists_mem_of_ne_nil _⟩

theorem mem_report {diagnostic : Diagnostic} :
    diagnostic ∈ report level constraints statements ↔
      ∃ statement ∈ statements, diagnostic ∈ findings level constraints statement := by
  rw [report_eq, List.mem_flatMap]

/-! ## Line by line -/

theorem filter_report_of_forall_ne {line : UInt32}
    (other : ∀ statement ∈ statements, statement.line ≠ line) :
    (report level constraints statements).filter (fun diagnostic => diagnostic.line = line) = [] := by
  refine List.filter_eq_nil_iff.mpr fun diagnostic member => ?_
  obtain ⟨statement, hstatement, found⟩ := mem_report.mp member
  rw [line_of_mem_findings found, decide_eq_true_iff]
  exact other statement hstatement

theorem filter_report_singleton (statement : Statement) :
    (report level constraints [statement]).filter
        (fun diagnostic => diagnostic.line = statement.line) =
      report level constraints [statement] := by
  refine List.filter_eq_self.mpr fun diagnostic member => decide_eq_true ?_
  obtain ⟨_, hstatement, found⟩ := mem_report.mp member
  cases List.mem_singleton.mp hstatement
  exact line_of_mem_findings found

theorem report_append (front back : List Statement) :
    report level constraints (front ++ back) =
      report level constraints front ++ report level constraints back := by
  simp only [report_eq, List.flatMap_append]

/-- With one command on each line, the diagnostics of a line are those of its command. -/
theorem filter_report {statement : Statement}
    (increasing : (statements.map Statement.line).Pairwise (· < ·)) (member : statement ∈ statements) :
    (report level constraints statements).filter
        (fun diagnostic => diagnostic.line = statement.line) =
      report level constraints [statement] := by
  obtain ⟨front, back, rfl⟩ := List.append_of_mem member
  rw [List.pairwise_map, List.pairwise_append, List.pairwise_cons] at increasing
  obtain ⟨-, ⟨hback, -⟩, hfront⟩ := increasing
  have hbefore : ∀ before ∈ front, before.line ≠ statement.line := fun before member =>
    UInt32.ne_of_lt (hfront before member statement List.mem_cons_self)
  have hafter : ∀ after ∈ back, after.line ≠ statement.line := fun after member =>
    (UInt32.ne_of_lt (hback after member)).symm
  rw [List.append_cons, report_append, report_append, List.filter_append, List.filter_append,
    filter_report_of_forall_ne hbefore, filter_report_of_forall_ne hafter, List.nil_append,
    List.append_nil, filter_report_singleton]

theorem pairwise_report (increasing : (statements.map Statement.line).Pairwise (· < ·)) :
    ((report level constraints statements).map Diagnostic.line).Pairwise (· ≤ ·) := by
  rw [List.pairwise_map, report_eq, List.pairwise_flatMap]
  constructor
  · intro statement _
    refine List.pairwise_of_forall_mem_list fun first hfirst second hsecond => ?_
    rw [line_of_mem_findings hfirst, line_of_mem_findings hsecond]
    exact UInt32.le_refl _
  · refine (List.pairwise_map.mp increasing).imp fun less first hfirst second hsecond => ?_
    rw [line_of_mem_findings hfirst, line_of_mem_findings hsecond]
    exact UInt32.le_of_lt less

theorem exists_mem_report (line : UInt32) :
    (∃ diagnostic ∈ report level constraints statements, diagnostic.line = line) ↔
      ∃ statement ∈ statements, statement.line = line ∧
        statement.command.Breaks level constraints.maxDelay.toNat := by
  constructor
  · rintro ⟨diagnostic, member, rfl⟩
    obtain ⟨statement, hstatement, found⟩ := mem_report.mp member
    exact ⟨statement, hstatement, (line_of_mem_findings found).symm,
      exists_mem_findings.mp ⟨diagnostic, found⟩⟩
  · rintro ⟨statement, hstatement, rfl, broken⟩
    obtain ⟨diagnostic, found⟩ := exists_mem_findings.mpr broken
    exact ⟨diagnostic, mem_report.mpr ⟨statement, hstatement, found⟩, line_of_mem_findings found⟩

theorem pairwise_inspect (positive : ∀ statement ∈ statements, 1 ≤ statement.line)
    (increasing : (statements.map Statement.line).Pairwise (· < ·)) :
    ((inspect level constraints statements).map Diagnostic.line).Pairwise (· ≤ ·) := by
  rw [inspect_eq, List.map_append, List.pairwise_append]
  refine ⟨?_, pairwise_report increasing, ?_⟩
  · rw [List.pairwise_map]
    refine List.pairwise_of_forall_mem_list fun first hfirst second hsecond => ?_
    rw [line_of_mem_budgetReport hfirst, line_of_mem_budgetReport hsecond]
    exact UInt32.le_refl _
  · intro first hfirst second hsecond
    obtain ⟨diagnostic, hdiagnostic, rfl⟩ := List.mem_map.mp hfirst
    obtain ⟨other, hother, rfl⟩ := List.mem_map.mp hsecond
    obtain ⟨statement, hstatement, hline, -⟩ := (exists_mem_report _).mp ⟨other, hother, rfl⟩
    rw [line_of_mem_budgetReport hdiagnostic, ← hline]
    exact positive statement hstatement

/-- The inspection of a script that was read line by line is precise. -/
theorem inspect_precise (level : Level) (constraints : Constraints) (statements : List Statement)
    (positive : ∀ statement ∈ statements, 1 ≤ statement.line)
    (increasing : (statements.map Statement.line).Pairwise (· < ·)) :
    Precise level constraints statements where
  budget_count := by rw [budgetReport_eq, List.length_map, length_budgetProblems]
  budget_line _ := line_of_mem_budgetReport
  reported_iff := exists_mem_report
  alone _ := filter_report increasing
  ordered := pairwise_inspect positive increasing
  nothing_hidden _ fewer := by
    rw [report_eq, report_eq]
    exact fewer.flatMap _

/-- Commands for the corridor, of which the fourth has two faults. -/
def faultyStatements : List Statement :=
  [{ line := 1, raw := "wait(0)", command := .wait 0 },
    { line := 3, raw := "alarm().delay(9)", command := .delayAlarm 9 },
    { line := 4, raw := "door(\"gate\").open()", command := .openDoor "gate" },
    { line := 5, raw := "turret(\"gate\").retarget(\"fly\")", command := .retargetTurret "gate" "fly" },
    { line := 8, raw := "door(\"vault\").close()", command := .closeDoor "vault" }]

theorem inspect_faultyStatements :
    (∀ statement ∈ faultyStatements, 1 ≤ statement.line) ∧
      (faultyStatements.map Statement.line).Pairwise (· < ·) ∧
      Precise corridor corridor.constraints faultyStatements ∧
      (budgetReport corridor corridor.constraints faultyStatements).length = 2 ∧
      (report corridor corridor.constraints faultyStatements).map Diagnostic.line =
        [1, 3, 3, 5, 5, 8] :=
  ⟨by decide, by decide, inspect_precise _ _ _ (by decide) (by decide), by decide, by decide⟩

end Infiltration.Script
