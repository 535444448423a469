import Infiltration.Proofs.Run.Trace
import Infiltration.Proofs.Script.Compile

/-! # Which scripts compile, and into what

A script is accepted if each of its lines that says something can be read, if there are not too many
of them, if every command is lawful on the level, and if the waits before the last command, added up
without a bound, end before the limit. The cues of an accepted script are its commands, each on the
tick that the waits before it add up to. -/

namespace Infiltration

namespace Script

/-! ## The declarative reading -/

/-- The lines that say something, with their numbers. Lines are counted from one, blank lines and
comments included. -/
def spokenLines (source : String) : List (List Char × ℕ) :=
  ((trimmedLines source).zipIdx 1).filter fun line => !Line.skippable line.1

/-- How many ticks a command makes those after it wait. -/
def Command.pause : Command → ℕ
  | wait ticks => ticks.toNat
  | _ => 0

/-- The pauses of commands, added up. -/
def paused : List Command → ℕ
  | [] => 0
  | command :: rest => command.pause + paused rest

/-- An id is that of a device of a type that the terminal can reach. Of several devices with one id
the first counts. -/
def Reaches (level : Level) (id : String) (type : DeviceType) : Prop :=
  id ∈ level.networkScope ∧
    ∃ device, level.devices.find? (fun device => device.id = id) = some device ∧ device.type = type

/-- An amount is given within bounds. -/
def Within (most : ℕ) (ticks : UInt64) : Prop := 1 ≤ ticks.toNat ∧ ticks.toNat ≤ most

/-- What a level demands of a command, verb by verb, where delays have an upper bound. -/
def Command.Lawful (level : Level) (most : ℕ) : Command → Prop
  | disableCamera camera duration =>
    Reaches level camera .camera ∧ ∀ ticks ∈ duration, Within most ticks
  | enableCamera camera => Reaches level camera .camera
  | delayAlarm ticks =>
    Within most ticks ∧
      ∃ device ∈ level.devices, device.type = .alarm ∧ device.id ∈ level.networkScope
  | openDoor door => Reaches level door .door
  | closeDoor door => Reaches level door .door
  | retargetTurret turret target =>
    Reaches level turret .turret ∧
      ∃ device, level.devices.find? (fun device => device.id = target) = some device ∧
        device.type = .drone
  | tagDevice device _ => ∃ type, Reaches level device type
  | wait ticks => Within most ticks
  | log _ => True

/-- The commands that the lines of a script spell are accepted on a level. All sums are sums of
natural numbers; the allowances end at the largest word. -/
structure Accepted (level : Level) (options : Options) (lines : List (List Char × ℕ))
    (commands : List Command) : Prop where
  spelled : lines.map (fun line => Line.command? line.1) = commands.map some
  few_lines : lines.length ≤ min (UInt32.size - 1)
    (level.constraints.maxLines.toNat + options.bonus.maxLines.toNat)
  few_commands : lines.length ≤ min (UInt32.size - 1)
    (level.constraints.maxCommands.toNat + options.bonus.maxCommands.toNat)
  lawful : ∀ command ∈ commands, command.Lawful level
    (min (UInt64.size - 1) (level.constraints.maxDelay.toNat + options.bonus.maxDelay.toNat))
  timely : commands = [] ∨
    paused commands.dropLast < min level.constraints.tickLimit.toNat options.ceiling.toNat

/-- Cues that carry out the commands of the lines in their order, each with the number and the text
of its line, on the tick that the pauses before it add up to. -/
structure Planned (lines : List (List Char × ℕ)) (commands : List Command) (cues : List Cue) :
    Prop where
  commands_eq : cues.map Cue.command = commands
  lines_eq : cues.map (fun cue => (cue.raw, cue.line.toNat)) =
    lines.map fun line => (String.ofList line.1, line.2)
  tick_eq : ∀ (place : ℕ) (cue : Cue), cues[place]? = some cue →
    cue.tick.toNat = paused (commands.take place)

/-! ## Reading -/

/-- The statement of a line that spells a command. -/
def Statement.ofLine (line : List Char × ℕ) (command : Command) : Statement :=
  { line := lineNumber line.2, raw := String.ofList line.1, command }

/-- What a line that says something is read as. -/
def readSpoken (line : List Char × ℕ) : Except Diagnostic Statement :=
  match Line.command? line.1 with
  | some command => .ok (Statement.ofLine line command)
  | none => .error ((Problem.unrecognized (String.ofList line.1)).on (lineNumber line.2))

theorem readLines_eq (position : ℕ) (raws : List (List Char)) :
    readLines position raws =
      ((raws.zipIdx position).filter fun line => !Line.skippable line.1).map readSpoken := by
  induction raws generalizing position with
  | nil => rfl
  | cons raw rest ih =>
      rw [readLines, ih, List.zipIdx_cons]
      cases hskip : Line.skippable raw with
      | true => simp [readLine, hskip]
      | false =>
          have hread : readLine position raw = some (readSpoken (raw, position)) := by
            simp only [readLine, hskip, readSpoken]
            cases Line.command? raw <;> rfl
          simp [hread, hskip]

theorem errors_readSpoken_eq_nil {lines : List (List Char × ℕ)} :
    (lines.map readSpoken).filterMap diagnostic? = [] ↔
      ∃ commands : List Command,
        lines.map (fun line => Line.command? line.1) = commands.map some := by
  induction lines with
  | nil => exact ⟨fun _ => ⟨[], rfl⟩, fun _ => rfl⟩
  | cons line rest ih =>
      cases hcommand : Line.command? line.1 with
      | none =>
          simp only [List.map_cons, readSpoken, hcommand, List.filterMap_cons, diagnostic?]
          constructor
          · intro h
            cases h
          · rintro ⟨_ | ⟨first, commands⟩, h⟩ <;> cases h
      | some command =>
          simp only [List.map_cons, readSpoken, hcommand, List.filterMap_cons, diagnostic?, ih]
          constructor
          · rintro ⟨commands, h⟩
            exact ⟨command :: commands, by rw [h, List.map_cons]⟩
          · rintro ⟨_ | ⟨first, commands⟩, h⟩
            · cases h
            · exact ⟨commands, (List.cons.inj h).2⟩

theorem statements_readSpoken {lines : List (List Char × ℕ)} {commands : List Command}
    (spelled : lines.map (fun line => Line.command? line.1) = commands.map some) :
    (lines.map readSpoken).filterMap statement? = List.zipWith Statement.ofLine lines commands := by
  induction lines generalizing commands with
  | nil => rfl
  | cons line rest ih =>
      cases commands with
      | nil => cases spelled
      | cons command commands =>
          obtain ⟨hcommand, hrest⟩ := List.cons.inj spelled
          simp only [List.map_cons, readSpoken, hcommand, List.filterMap_cons, statement?, ih hrest,
            List.zipWith_cons_cons]

theorem errors_read_eq_nil {source : String} :
    (read source).errors = [] ↔ ∃ commands : List Command,
      (spokenLines source).map (fun line => Line.command? line.1) = commands.map some := by
  simp only [read, readLines_eq]
  exact errors_readSpoken_eq_nil

theorem statements_read {source : String} {commands : List Command}
    (spelled : (spokenLines source).map (fun line => Line.command? line.1) = commands.map some) :
    (read source).statements = List.zipWith Statement.ofLine (spokenLines source) commands := by
  simp only [read, readLines_eq]
  exact statements_readSpoken spelled

theorem length_of_spelled {lines : List (List Char × ℕ)} {commands : List Command}
    (spelled : lines.map (fun line => Line.command? line.1) = commands.map some) :
    lines.length = commands.length := by
  simpa using congrArg List.length spelled

theorem commands_ofLine {lines : List (List Char × ℕ)} {commands : List Command}
    (same : lines.length = commands.length) :
    (List.zipWith Statement.ofLine lines commands).map Statement.command = commands := by
  have hzip : (lines.zip commands).map Prod.snd = commands :=
    List.map_snd_zip (Nat.le_of_eq same.symm)
  rw [List.zip, List.map_zipWith] at hzip
  rwa [List.map_zipWith]

theorem lines_ofLine {lines : List (List Char × ℕ)} {commands : List Command}
    (same : lines.length = commands.length) :
    (List.zipWith Statement.ofLine lines commands).map
        (fun statement => (statement.raw, statement.line)) =
      lines.map fun line => (String.ofList line.1, lineNumber line.2) := by
  have hzip := congrArg (List.map fun line : List Char × ℕ =>
    (String.ofList line.1, lineNumber line.2)) (List.map_fst_zip (Nat.le_of_eq same))
  rw [List.zip, List.map_zipWith, List.map_zipWith] at hzip
  rwa [List.map_zipWith]

/-! ## Rules -/

theorem delayProblems_eq_nil {constraints : Constraints} {delay : Delay} {ticks : UInt64} :
    delayProblems constraints delay ticks = [] ↔ Within constraints.maxDelay.toNat ticks := by
  have hzero : ticks = 0 ↔ ticks.toNat = 0 := by rw [← UInt64.toNat_inj, UInt64.toNat_zero]
  simp only [delayProblems, List.append_eq_nil_iff, Within, hzero, UInt64.lt_iff_toNat_lt]
  split <;> split <;> simp <;> omega

theorem alarmInScope_iff {level : Level} :
    level.alarmInScope = true ↔
      ∃ device ∈ level.devices, device.type = .alarm ∧ device.id ∈ level.networkScope := by
  simp [Level.alarmInScope, Level.alarms, Level.inScope]

theorem targetProblems_eq_nil {level : Level} {target : String} :
    targetProblems level target = [] ↔
      ∃ device, level.devices.find? (fun device => device.id = target) = some device ∧
        device.type = .drone := by
  unfold targetProblems Level.device?
  cases level.devices.find? (fun device => device.id = target) <;> simp

/-- A command that names a device needs one within reach, of the type that its verb asks for if it
asks for any, and a target without problems if it has one. -/
theorem deviceProblems_eq_nil {level : Level} {command : Command} {id : String}
    (named : command.device? = some id) :
    deviceProblems level command = [] ↔
      (∃ type, Reaches level id type ∧
        ∀ required, command.requiredType? = some required → type = required) ∧
      ∀ target, command.target? = some target → targetProblems level target = [] := by
  simp only [deviceProblems, named, Level.device?, Reaches]
  cases level.devices.find? (fun device => device.id = id) with
  | none => simp
  | some device =>
      cases command.requiredType? <;> cases command.target? <;>
        cases hscope : level.inScope id <;> simp_all [Level.inScope]

theorem commandProblems_eq_nil {level : Level} {constraints : Constraints} {command : Command} :
    commandProblems level constraints command = [] ↔
      command.Lawful level constraints.maxDelay.toNat := by
  rw [commandProblems, List.append_eq_nil_iff]
  cases command with
  | disableCamera camera duration =>
      rw [deviceProblems_eq_nil rfl]
      cases duration <;>
        simp [amountProblems, delayProblems_eq_nil, Command.requiredType?, Command.target?,
          Command.Lawful, and_comm]
  | enableCamera camera =>
      rw [deviceProblems_eq_nil rfl]
      simp [amountProblems, Command.requiredType?, Command.target?, Command.Lawful]
  | delayAlarm ticks =>
      simp [amountProblems, deviceProblems, Command.device?, delayProblems_eq_nil, Command.Lawful,
        alarmInScope_iff, and_comm]
  | openDoor door =>
      rw [deviceProblems_eq_nil rfl]
      simp [amountProblems, Command.requiredType?, Command.target?, Command.Lawful]
  | closeDoor door =>
      rw [deviceProblems_eq_nil rfl]
      simp [amountProblems, Command.requiredType?, Command.target?, Command.Lawful]
  | retargetTurret turret target =>
      rw [deviceProblems_eq_nil rfl]
      simp [amountProblems, Command.requiredType?, Command.target?, Command.Lawful,
        targetProblems_eq_nil]
  | tagDevice device tag =>
      rw [deviceProblems_eq_nil rfl]
      simp [amountProblems, Command.requiredType?, Command.target?, Command.Lawful]
  | wait ticks =>
      simp [amountProblems, deviceProblems, Command.device?, delayProblems_eq_nil, Command.Lawful]
  | log message => simp [amountProblems, deviceProblems, Command.device?, Command.Lawful]

theorem budgetProblems_eq_nil {constraints : Constraints} {count : ℕ} :
    budgetProblems constraints count = [] ↔
      count ≤ constraints.maxLines.toNat ∧ count ≤ constraints.maxCommands.toNat := by
  simp [budgetProblems]

theorem inspect_eq_nil {level : Level} {constraints : Constraints} {statements : List Statement} :
    inspect level constraints statements = [] ↔
      (statements.length ≤ constraints.maxLines.toNat ∧
        statements.length ≤ constraints.maxCommands.toNat) ∧
      ∀ command ∈ statements.map Statement.command,
        command.Lawful level constraints.maxDelay.toNat := by
  simp [inspect, List.append_eq_nil_iff, List.flatMap_eq_nil_iff, budgetProblems_eq_nil,
    commandProblems_eq_nil]

/-! ## Ticks -/

theorem toNat_advance (tick : UInt64) (command : Command) :
    (command.advance tick).toNat = min (UInt64.size - 1) (tick.toNat + command.pause) := by
  have hbound := tick.toNat_lt_size
  cases command with
  | wait ticks => exact Capped.toNat_add64 tick ticks
  | _ =>
      simp only [Command.advance, Command.pause]
      omega

theorem texts_scheduleFrom (tick : UInt64) (statements : List Statement) :
    (scheduleFrom tick statements).map (fun cue => (cue.raw, cue.line)) =
      statements.map fun statement => (statement.raw, statement.line) := by
  induction statements generalizing tick with
  | nil => rfl
  | cons statement rest ih => simp [scheduleFrom, ih]

private theorem max_eq_later {a b : UInt64} (h : a ≤ b) : max a b = b := if_pos h

/-- The tick of a cue counts the pauses before it, as far as words go. -/
theorem toNat_tick_scheduleFrom (tick : UInt64) (statements : List Statement) :
    ∀ (place : ℕ) (cue : Cue), (scheduleFrom tick statements)[place]? = some cue →
      cue.tick.toNat = min (UInt64.size - 1)
        (tick.toNat + paused ((statements.map Statement.command).take place)) := by
  induction statements generalizing tick with
  | nil => simp [scheduleFrom]
  | cons statement rest ih =>
      intro place cue h
      cases place with
      | zero =>
          cases h
          exact (Nat.min_eq_right (Nat.le_sub_one_of_lt tick.toNat_lt_size)).symm
      | succ place =>
          rw [ih (statement.command.advance tick) place cue h, toNat_advance]
          simp only [List.map_cons, List.take_succ_cons, paused]
          omega

/-- The last tick counts the pauses before the last command, as far as words go. -/
theorem toNat_foldl_scheduleFrom {first tick : UInt64} (h : first ≤ tick)
    {statements : List Statement} (some_statement : statements ≠ []) :
    ((scheduleFrom tick statements).foldl (fun last cue => max last cue.tick) first).toNat =
      min (UInt64.size - 1)
        (tick.toNat + paused (statements.map Statement.command).dropLast) := by
  induction statements generalizing first tick with
  | nil => exact absurd rfl some_statement
  | cons statement rest ih =>
      rw [scheduleFrom, List.foldl_cons, max_eq_later h]
      cases rest with
      | nil => exact (Nat.min_eq_right (Nat.le_sub_one_of_lt tick.toNat_lt_size)).symm
      | cons next rest =>
          have hadvance : tick ≤ statement.command.advance tick := by
            have hbound := tick.toNat_lt_size
            rw [UInt64.le_iff_toNat_le, toNat_advance]
            omega
          rw [ih hadvance (List.cons_ne_nil _ _), toNat_advance]
          simp only [List.map_cons, List.dropLast_cons_cons, paused]
          omega

theorem toNat_lastTick_schedule {statements : List Statement} (some_statement : statements ≠ []) :
    (lastTick (schedule statements)).toNat =
      min (UInt64.size - 1) (paused (statements.map Statement.command).dropLast) := by
  have h := toNat_foldl_scheduleFrom (UInt64.le_refl 0) some_statement
  rwa [UInt64.toNat_zero, Nat.zero_add] at h

/-! ## Compilation -/

theorem toNat_limitUnder (constraints : Constraints) (ceiling : UInt64) :
    (constraints.limitUnder ceiling).toNat = min constraints.tickLimit.toNat ceiling.toNat := by
  have hmin : constraints.limitUnder ceiling =
      if constraints.tickLimit ≤ ceiling then constraints.tickLimit else ceiling := rfl
  rw [hmin]
  simp only [UInt64.le_iff_toNat_le]
  split <;> omega

theorem compilation_withinLimit (limit : UInt64) (cues : List Cue) :
    ((Compilation.of (withinLimit limit cues)).errors = [] ↔ cues = [] ∨ lastTick cues < limit) ∧
      ((Compilation.of (withinLimit limit cues)).errors = [] →
        (Compilation.of (withinLimit limit cues)).cues = cues) := by
  have hlate : limit ≤ lastTick cues ↔ ¬lastTick cues < limit := UInt64.not_lt.symm
  cases cues with
  | nil => simp [withinLimit, Compilation.of]
  | cons cue rest =>
      by_cases h : lastTick (cue :: rest) < limit <;> simp [withinLimit, hlate, h, Compilation.of]

/-- A script compiles if none of the three steps finds fault, and then into its schedule. -/
theorem compilation_of_compile (level : Level) (options : Options) (source : String) :
    ((Compilation.of (compile level options source)).errors = [] ↔
      (read source).errors = [] ∧
      inspect level (level.constraints.widen options.bonus) (read source).statements = [] ∧
      (schedule (read source).statements = [] ∨
        lastTick (schedule (read source).statements) <
          level.constraints.limitUnder options.ceiling)) ∧
      ((Compilation.of (compile level options source)).errors = [] →
        (Compilation.of (compile level options source)).cues =
          schedule (read source).statements) := by
  cases herrors : (read source).errors with
  | cons error more => simp [compile, herrors, Compilation.of]
  | nil =>
      cases hfound : inspect level (level.constraints.widen options.bonus)
          (read source).statements with
      | cons problem more => simp [compile, herrors, hfound, Compilation.of]
      | nil =>
          simpa [compile, herrors, hfound] using
            compilation_withinLimit _ (schedule (read source).statements)

/-- The schedule of a script that is spelled right ends before the limit if its pauses do. -/
theorem schedule_timely {level : Level} {ceiling : UInt64} {statements : List Statement} :
    (schedule statements = [] ∨
        lastTick (schedule statements) < level.constraints.limitUnder ceiling) ↔
      (statements.map Statement.command = [] ∨
        paused (statements.map Statement.command).dropLast <
          min level.constraints.tickLimit.toNat ceiling.toNat) := by
  have hlimit := toNat_limitUnder level.constraints ceiling
  have hword := (level.constraints.limitUnder ceiling).toNat_lt_size
  cases statements with
  | nil => simp [schedule, scheduleFrom]
  | cons statement rest =>
      have hlast := toNat_lastTick_schedule (List.cons_ne_nil statement rest)
      rw [UInt64.lt_iff_toNat_lt, hlast, hlimit]
      simp only [schedule, scheduleFrom, List.map_cons, List.cons_ne_nil, false_or]
      omega

variable {level : Level} {options : Options} {source : String} {commands : List Command}

theorem accepted_iff
    (spelled : (spokenLines source).map (fun line => Line.command? line.1) = commands.map some) :
    (Compilation.of (compile level options source)).errors = [] ↔
      Accepted level options (spokenLines source) commands := by
  have hlength := length_of_spelled spelled
  have hcommands := commands_ofLine hlength
  rw [(compilation_of_compile level options source).1, schedule_timely, inspect_eq_nil,
    statements_read spelled, hcommands, List.length_zipWith, ← hlength, Nat.min_self]
  simp only [Constraints.widen, Capped.toNat_add32, Capped.toNat_add64]
  constructor
  · rintro ⟨-, ⟨⟨hlines, hmany⟩, hlawful⟩, htimely⟩
    exact ⟨spelled, hlines, hmany, hlawful, htimely⟩
  · rintro ⟨-, hlines, hmany, hlawful, htimely⟩
    exact ⟨errors_read_eq_nil.mpr ⟨commands, spelled⟩, ⟨⟨hlines, hmany⟩, hlawful⟩, htimely⟩

/-- What does not compile has something to report. -/
theorem compile_ne_error_nil (level : Level) (options : Options) (source : String) :
    compile level options source ≠ .error [] := by
  intro h
  simp only [compile, withinLimit] at h
  split at h
  · simp_all
  · split at h
    · simp_all
    · split at h <;> cases h

/-- A script has cues if its commands are accepted, and these are then its schedule. -/
theorem compile_eq_ok_iff {cues : List Cue} :
    compile level options source = .ok cues ↔
      ∃ commands, Accepted level options (spokenLines source) commands ∧
        schedule (List.zipWith Statement.ofLine (spokenLines source) commands) = cues := by
  have hcompiled := compilation_of_compile level options source
  constructor
  · intro ok
    have hnone : (Compilation.of (compile level options source)).errors = [] := by
      rw [ok, Compilation.of]
    obtain ⟨commands, spelled⟩ := errors_read_eq_nil.mp (hcompiled.1.mp hnone).1
    refine ⟨commands, (accepted_iff spelled).mp hnone, ?_⟩
    rw [← statements_read spelled, ← hcompiled.2 hnone, ok, Compilation.of]
  · rintro ⟨commands, accepted, rfl⟩
    have hnone := (accepted_iff accepted.spelled).mpr accepted
    have hcues := hcompiled.2 hnone
    rw [statements_read accepted.spelled] at hcues
    cases hcompile : compile level options source with
    | ok cues => rw [← hcues, hcompile, Compilation.of]
    | error errors =>
        rw [hcompile, Compilation.of] at hnone
        exact absurd (hnone ▸ hcompile) (compile_ne_error_nil level options source)

theorem number_of_mem_spokenLines {line : List Char × ℕ} (member : line ∈ spokenLines source) :
    line.2 ≤ (trimmedLines source).length := by
  obtain ⟨-, hlt, -⟩ := List.mem_zipIdx (List.mem_of_mem_filter member)
  omega

theorem paused_append (front back : List Command) :
    paused (front ++ back) = paused front + paused back := by
  induction front with
  | nil => exact (Nat.zero_add _).symm
  | cons command front ih => rw [List.cons_append, paused, paused, ih, Nat.add_assoc]

theorem paused_take_le (place : ℕ) (h : place < commands.length) :
    paused (commands.take place) ≤ paused commands.dropLast := by
  have hprefix : commands.take place <+: commands.dropLast := by
    rw [List.dropLast_eq_take]
    exact List.take_prefix_take_left (by omega)
  obtain ⟨rest, heq⟩ := hprefix
  rw [← heq, paused_append]
  exact Nat.le_add_right _ _

/-- The cues of an accepted script. All its ticks are below the limit, so none is cut off at the
largest word. -/
theorem planned_of_accepted (few : (trimmedLines source).length < UInt32.size)
    (accepted : Accepted level options (spokenLines source) commands) :
    Planned (spokenLines source) commands (Compilation.of (compile level options source)).cues := by
  have spelled := accepted.spelled
  have hlength := length_of_spelled spelled
  have hcommands := commands_ofLine hlength
  have hcues := (compilation_of_compile level options source).2
    ((accepted_iff spelled).mpr accepted)
  rw [hcues, statements_read spelled]
  refine ⟨?_, ?_, ?_⟩
  · rw [schedule, commands_scheduleFrom, hcommands]
  · have hlines := (texts_scheduleFrom 0 _).trans (lines_ofLine hlength)
    have hnumbers := congrArg (List.map (Prod.map id UInt32.toNat)) hlines
    rw [List.map_map, List.map_map] at hnumbers
    refine hnumbers.trans (List.map_congr_left fun line member => ?_)
    have hle := number_of_mem_spokenLines member
    exact congrArg (Prod.mk _) (toNat_lineNumber (by omega))
  · intro place cue h
    have hplace : place < commands.length := by
      obtain ⟨hlt, -⟩ := List.getElem?_eq_some_iff.mp h
      rw [schedule, length_scheduleFrom, List.length_zipWith] at hlt
      omega
    have htick := toNat_tick_scheduleFrom 0 _ place cue h
    rw [UInt64.toNat_zero, Nat.zero_add, hcommands] at htick
    rcases accepted.timely with hnone | htimely
    · rw [hnone] at hplace
      cases hplace
    · have hle := paused_take_le place hplace
      have hword := level.constraints.tickLimit.toNat_lt_size
      omega

/-- A script compiles without errors exactly if its lines spell commands that the level accepts, and
its cues are then the plan of these commands. -/
theorem compile_accepts (level : Level) (options : Options) (source : String)
    (few : (trimmedLines source).length < UInt32.size) :
    ((Compilation.of (compile level options source)).errors = [] ↔
      ∃ commands, Accepted level options (spokenLines source) commands) ∧
    ∀ commands, Accepted level options (spokenLines source) commands →
      Planned (spokenLines source) commands
        (Compilation.of (compile level options source)).cues := by
  refine ⟨⟨fun h => ?_, fun ⟨commands, accepted⟩ => ?_⟩, fun _ => planned_of_accepted few⟩
  · obtain ⟨commands, spelled⟩ :=
      errors_read_eq_nil.mp ((compilation_of_compile level options source).1.mp h).1
    exact ⟨commands, (accepted_iff spelled).mp h⟩
  · exact (accepted_iff accepted.spelled).mpr accepted

/-- The corridor with the largest limits there are. -/
def endlessCorridor : Level :=
  { corridor with
    constraints :=
      { maxLines := 1
        maxCommands := 1
        maxDelay := 7
        tickLimit := UInt64.ofNat (UInt64.size - 1) } }

def endlessOptions : Options :=
  { bonus :=
      { maxLines := UInt32.ofNat (UInt32.size - 1)
        maxCommands := 1
        maxDelay := UInt64.ofNat (UInt64.size - 2) }
    ceiling := UInt64.ofNat (UInt64.size - 1) }

def endlessScript : String :=
  "wait(18446744073709551614)\n# for ever\nwait(18446744073709551615)"

/-- The pauses together are longer than any word, but the last one delays no command. -/
theorem endlessScript_planned :
    (trimmedLines endlessScript).length < UInt32.size ∧
      (∃ commands, Accepted endlessCorridor endlessOptions (spokenLines endlessScript) commands ∧
        UInt64.size ≤ paused commands ∧
        Planned (spokenLines endlessScript) commands
          (Compilation.of (compile endlessCorridor endlessOptions endlessScript)).cues) := by
  have few : (trimmedLines endlessScript).length < UInt32.size := by decide
  obtain ⟨haccepted, hplanned⟩ := compile_accepts endlessCorridor endlessOptions endlessScript few
  have herrors :
      (Compilation.of (compile endlessCorridor endlessOptions endlessScript)).errors = [] := by
    decide
  have hcues : (Compilation.of (compile endlessCorridor endlessOptions endlessScript)).cues.map
      Cue.command = [.wait 18446744073709551614, .wait 18446744073709551615] := by
    decide
  obtain ⟨commands, accepted⟩ := haccepted.mp herrors
  have hcommands := (hplanned commands accepted).commands_eq.symm.trans hcues
  refine ⟨few, commands, accepted, ?_, hplanned commands accepted⟩
  rw [hcommands]
  decide

end Script

end Infiltration
