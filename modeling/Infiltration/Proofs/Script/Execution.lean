import Infiltration.Proofs.Run.Trace
import Infiltration.Proofs.Script.Compile

/-! # Cues are carried out

A cue that finds what it names is carried out on its tick, once and with its effect, and the log
shows it in one piece. No other events have lines. -/

namespace Infiltration

attribute [local irreducible] Mission.opening Mission.closing

namespace Script

/-- The kind of event that tells of a command's effect. -/
def Command.effect? : Command → Option EventKind
  | disableCamera _ _ => some .deviceDisabled
  | enableCamera _ => some .deviceEnabled
  | delayAlarm _ => some .alarmDelayApplied
  | openDoor _ => some .doorOpened
  | closeDoor _ => some .doorClosed
  | retargetTurret _ _ => some .turretRetargeted
  | tagDevice _ _ => some .deviceTagged
  | wait _ => none
  | log _ => some .log

/-- What the log tells of a cue: its line, then its effect. -/
def Cue.kinds (cue : Cue) : List EventKind := .scriptLineExecuted :: cue.command.effect?.toList

end Script

/-! ## One command -/

namespace Script.Command.Served

variable {world : World} {command : Command}

theorem find? (served : command.Served (world.devices.view Device.type)) {key : String}
    (h : command.device? = some key) :
    ∃ device, world.devices.find? key = some device ∧
      ∀ required, command.requiredType? = some required → device.type = required := by
  obtain ⟨type, member, hrequired⟩ := served.device key h
  obtain ⟨device, found, rfl⟩ := Roster.find?_of_mem_view member
  exact ⟨device, found, hrequired⟩

/-- What a command needs of its device is there. -/
theorem part? {α : Type} {view : Device → Option α} {required : DeviceType}
    (served : command.Served (world.devices.view Device.type)) {key : String}
    (named : command.device? = some key) (typed : command.requiredType? = some required)
    (shown : ∀ device, (view device).isSome ↔ device.type = required) :
    ∃ part, world.devices.part? key view = some part := by
  obtain ⟨device, found, htype⟩ := served.find? named
  have hsome := (shown device).mpr (htype required typed)
  obtain ⟨part, hpart⟩ := Option.isSome_iff_exists.mp hsome
  exact ⟨part, Roster.part?_eq_some.mpr ⟨device, found, hpart⟩⟩

theorem alarmEntry? {ticks : UInt64}
    (served : (delayAlarm ticks).Served (world.devices.view Device.type)) :
    ∃ key alarm, world.devices.alarmEntry? = some (key, alarm) := by
  obtain ⟨id, member⟩ := served.alarm ticks rfl
  have hkey := world.devices.key_alarmEntry?
  cases hentry : world.devices.alarmEntry? with
  | some entry => exact ⟨entry.1, entry.2, rfl⟩
  | none =>
      rw [hentry, Option.map_none, eq_comm, Option.map_eq_none_iff, List.find?_eq_none] at hkey
      exact absurd (decide_eq_true rfl) (hkey _ member)

end Script.Command.Served

/-- A command that finds what it names has exactly its effect. -/
theorem World.kinds_perform {world : World} {command : Script.Command} (line : UInt32)
    (served : command.Served (world.devices.view Device.type)) :
    (world.perform line command).2.map Occurrence.kind = command.effect?.toList := by
  cases command with
  | disableCamera key duration =>
      obtain ⟨camera, hpart⟩ := served.part? rfl rfl Device.isSome_camera?
      simp [perform, hpart, Occurrence.kind, Script.Command.effect?]
  | enableCamera key =>
      obtain ⟨camera, hpart⟩ := served.part? rfl rfl Device.isSome_camera?
      simp [perform, hpart, Occurrence.kind, Script.Command.effect?]
  | delayAlarm ticks =>
      obtain ⟨key, alarm, first⟩ := served.alarmEntry?
      simp [perform, first, Occurrence.kind, Script.Command.effect?]
  | openDoor key =>
      obtain ⟨door, hpart⟩ := served.part? rfl rfl Device.isSome_door?
      simp [perform, hpart, Occurrence.kind, Script.Command.effect?]
  | closeDoor key =>
      obtain ⟨door, hpart⟩ := served.part? rfl rfl Device.isSome_door?
      simp [perform, hpart, Occurrence.kind, Script.Command.effect?]
  | retargetTurret key target =>
      obtain ⟨turret, hpart⟩ := served.part? rfl rfl Device.isSome_turret?
      simp [perform, hpart, Occurrence.kind, Script.Command.effect?]
  | tagDevice key tag =>
      obtain ⟨device, found, -⟩ := served.find? rfl
      simp [perform, found, Occurrence.kind, Script.Command.effect?]
  | wait ticks => rfl
  | log message => rfl

/-! ## Headings -/

/-- Kind and line, the parts of an entry that tell what was done for which line. -/
abbrev Heading := EventKind × Option UInt32

def Occurrence.heading (occurrence : Occurrence) : Heading := (occurrence.kind, occurrence.line?)

def Event.heading (event : Event) : Heading := (event.kind, event.line)

theorem map_heading_enterFrom (entered : ℕ) (tick : UInt64) (occurrences : List Occurrence) :
    (enterFrom entered tick occurrences).map Event.heading =
      occurrences.map Occurrence.heading := by
  induction occurrences generalizing entered with
  | nil => rfl
  | cons occurrence rest ih =>
      rw [enterFrom, List.map_cons, List.map_cons, ih]
      rfl

namespace Log

variable {log : Log} {line : UInt32}

theorem forLine_append (front back : Log) (line : UInt32) :
    Log.forLine (front ++ back) line = Log.forLine front line ++ Log.forLine back line :=
  List.filter_append ..

theorem forLine_eq_self (own : ∀ heading ∈ log.map Event.heading, heading.2 = some line) :
    log.forLine line = log := by
  apply List.filter_eq_self.mpr
  intro event member
  exact decide_eq_true (own _ (List.mem_map_of_mem member))

theorem forLine_eq_nil (apart : ∀ heading ∈ log.map Event.heading, heading.2 ≠ some line) :
    log.forLine line = [] := by
  apply List.filter_eq_nil_iff.mpr
  intro event member
  simpa [Event.heading] using apart _ (List.mem_map_of_mem member)

end Log

namespace Script

/-- The headings of a cue that is carried out. -/
def Cue.headings (cue : Cue) : List Heading := cue.kinds.map fun kind => (kind, some cue.line)

/-- The headings tell of a cue in one piece, and nowhere else of its line. -/
def Cue.ToldIn (cue : Cue) (headings : List Heading) : Prop :=
  ∃ front back, headings = front ++ cue.headings ++ back ∧
    ∀ heading ∈ front ++ back, heading.2 ≠ some cue.line

variable {cue : Cue} {headings : List Heading}

theorem Cue.ToldIn.pad (told : cue.ToldIn headings) {front back : List Heading}
    (apart : ∀ heading ∈ front ++ back, heading.2 ≠ some cue.line) :
    cue.ToldIn (front ++ headings ++ back) := by
  obtain ⟨before, after, rfl, hnone⟩ := told
  refine ⟨front ++ before, after ++ back, by simp only [List.append_assoc], ?_⟩
  intro heading member
  simp only [List.mem_append] at member apart hnone
  rcases member with (member | member) | (member | member)
  · exact apart heading (.inl member)
  · exact hnone heading (.inl member)
  · exact hnone heading (.inr member)
  · exact apart heading (.inr member)

/-- The events of a line that is told of are those that tell of it. -/
theorem Cue.ToldIn.forLine {log : Log} (told : cue.ToldIn (log.map Event.heading)) :
    log.forLine cue.line <:+: log ∧ (log.forLine cue.line).map Event.kind = cue.kinds := by
  obtain ⟨front, back, hlog, hnone⟩ := told
  obtain ⟨rest, last, rfl, hrest, rfl⟩ := List.map_eq_append_iff.mp hlog
  obtain ⟨first, middle, rfl, rfl, hmiddle⟩ := List.map_eq_append_iff.mp hrest
  have hinside : Log.forLine middle cue.line = middle := by
    apply Log.forLine_eq_self
    intro heading member
    rw [hmiddle, Cue.headings, List.mem_map] at member
    obtain ⟨kind, -, rfl⟩ := member
    rfl
  have hline : Log.forLine (first ++ middle ++ last) cue.line = middle := by
    rw [Log.forLine_append, Log.forLine_append, hinside,
      Log.forLine_eq_nil fun heading member => hnone heading (List.mem_append_left _ member),
      Log.forLine_eq_nil fun heading member => hnone heading (List.mem_append_right _ member),
      List.nil_append, List.append_nil]
  rw [hline]
  refine ⟨⟨first, last, rfl⟩, ?_⟩
  have hkinds := congrArg (List.map Prod.fst) hmiddle
  simpa [Cue.headings, Event.heading, List.map_map, Function.comp_def] using hkinds

end Script

/-! ## The cues of one tick -/

namespace Tick

variable (cue : Script.Cue) (cues : List Script.Cue) (world : World)

theorem runCues_append (front back : List Script.Cue) :
    (runCues (front ++ back) world).2 =
      (runCues front world).2 ++ (runCues back (runCues front world).1).2 := by
  simp only [runCues, List.map_append, inOrder_append, Phase.andThen]

theorem runCues_cons :
    (runCues (cue :: cues) world).2 =
      (runCue cue world).2 ++ (runCues cues (runCue cue world).1).2 := rfl

variable {cue cues world}

/-- Cues tell of no lines but their own. -/
theorem apart_runCues {line : UInt32} (absent : line ∉ cues.map Script.Cue.line) :
    ∀ heading ∈ (runCues cues world).2.map Occurrence.heading, heading.2 ≠ some line := by
  intro heading member hline
  obtain ⟨occurrence, hoccurrence, rfl⟩ := List.mem_map.mp member
  obtain ⟨stage, ⟨other, hother, rfl⟩, heq⟩ :=
    (runCues_deeds cues world).line?_eq occurrence hoccurrence
  have hsame : some other.line = some line := heq.symm.trans hline
  exact absent (Option.some.inj hsame ▸ List.mem_map_of_mem hother)

theorem headings_runCue (served : cue.command.Served (world.devices.view Device.type)) :
    (runCue cue world).2.map Occurrence.heading = cue.headings := by
  have hlines : ∀ occurrence ∈ (runCue cue world).2, occurrence.line? = some cue.line := by
    intro occurrence member
    obtain ⟨stage, rfl, hline⟩ := (runCue_deeds cue world).line?_eq occurrence member
    exact hline
  have hkinds : (runCue cue world).2.map Occurrence.kind = cue.kinds := by
    rw [runCue, List.map_cons, World.kinds_perform cue.line served]
    rfl
  rw [Script.Cue.headings, ← hkinds, List.map_map]
  apply List.map_congr_left
  intro occurrence member
  simp only [Occurrence.heading, Function.comp_def, hlines occurrence member]

/-- A cue of a tick is told of in one piece. -/
theorem toldIn_runCues (distinct : (cues.map Script.Cue.line).Nodup) (member : cue ∈ cues)
    (served : cue.command.Served (world.devices.view Device.type)) :
    cue.ToldIn ((runCues cues world).2.map Occurrence.heading) := by
  obtain ⟨front, back, rfl⟩ := List.append_of_mem member
  rw [List.map_append, List.map_cons, List.nodup_append, List.nodup_cons] at distinct
  obtain ⟨-, ⟨hback, -⟩, hfront⟩ := distinct
  have htypes := (runCues_deeds front world).types_eq
  rw [runCues_append, runCues_cons, List.map_append, List.map_append,
    headings_runCue (htypes ▸ served), ← List.append_assoc]
  refine ⟨_, _, rfl, ?_⟩
  intro heading hmember
  rcases List.mem_append.mp hmember with hmember | hmember
  · exact apart_runCues (fun h => hfront _ h _ List.mem_cons_self rfl) heading hmember
  · exact apart_runCues hback heading hmember

end Tick

/-! ## The cues of a run -/

namespace Engine

variable {engine : Engine}

/-- After its script lines a tick tells of no line. -/
theorem heading_entries (labelled : engine.world.devices.Labelled) :
    ∃ back, engine.entries.map Event.heading = engine.cued.2.map Occurrence.heading ++ back ∧
      ∀ heading ∈ back, heading.2 = none := by
  obtain ⟨rest, heq, hdeeds⟩ := rest_deeds labelled
  refine ⟨rest.map Occurrence.heading, ?_, ?_⟩
  · rw [entries, map_heading_enterFrom, heq, List.map_append]
  · intro heading member
    obtain ⟨occurrence, hoccurrence, rfl⟩ := List.mem_map.mp member
    obtain ⟨stage, hstage, hline⟩ := hdeeds.line?_eq occurrence hoccurrence
    exact hline.trans hstage

theorem cue_of_line (labelled : engine.world.devices.Labelled) {event : Event}
    (member : event ∈ engine.entries) {line : UInt32} (h : event.line = some line) :
    ∃ cue ∈ engine.mission.cues, cue.line = line ∧ cue.tick = event.tick := by
  have htick : event.tick = engine.world.tick := by
    obtain ⟨occurrence, -, id, rfl⟩ := mem_enterFrom member
    rfl
  obtain ⟨back, hentries, hback⟩ := heading_entries labelled
  have hheading := List.mem_map_of_mem (f := Event.heading) member
  rw [hentries, List.mem_append] at hheading
  rcases hheading with hheading | hheading
  · by_contra hnone
    have habsent : line ∉ (engine.mission.cuesAt engine.world.tick).map Script.Cue.line := by
      intro hline
      obtain ⟨cue, hcue, heq⟩ := List.mem_map.mp hline
      obtain ⟨hlisted, hat⟩ := List.mem_filter.mp hcue
      exact hnone ⟨cue, hlisted, heq, (of_decide_eq_true hat).trans htick.symm⟩
    exact Tick.apart_runCues habsent _ hheading h
  · exact absurd (h.symm.trans (hback _ hheading)) (Option.some_ne_none _)

theorem toldIn_entries {cue : Script.Cue} (labelled : engine.world.devices.Labelled)
    (distinct : (engine.mission.cues.map Script.Cue.line).Nodup)
    (member : cue ∈ engine.mission.cues) (due : cue.tick = engine.world.tick)
    (served : cue.command.Served (engine.world.devices.view Device.type)) :
    cue.ToldIn (engine.entries.map Event.heading) := by
  obtain ⟨back, hentries, hback⟩ := heading_entries labelled
  have hcues : ((engine.mission.cuesAt engine.world.tick).map Script.Cue.line).Nodup :=
    distinct.sublist (List.filter_sublist.map _)
  have hmember : cue ∈ engine.mission.cuesAt engine.world.tick :=
    List.mem_filter.mpr ⟨member, decide_eq_true due⟩
  have htold := Tick.toldIn_runCues hcues hmember served
  rw [hentries]
  change cue.ToldIn ([] ++ _ ++ back)
  apply htold.pad
  exact fun heading h hline => Option.some_ne_none _ (hline.symm.trans (hback heading h))

end Engine

namespace Mission

variable (mission : Mission)

theorem cue_of_line {steps : ℕ} (h : steps ≤ mission.duration) {event : Event}
    (member : event ∈ (mission.after steps).log) {line : UInt32}
    (hline : event.line = some line) :
    ∃ cue ∈ mission.cues, cue.line = line ∧ cue.tick = event.tick := by
  rw [mission.log_after h] at member
  obtain ⟨step, -, member⟩ := List.mem_flatMap.mp member
  simpa using Engine.cue_of_line (mission.labelled_after step) member hline

variable {mission} {cue : Script.Cue} (distinct : (mission.cues.map Script.Cue.line).Nodup)
  (member : cue ∈ mission.cues)

include distinct member

/-- The events of a cue's line are dated to its tick. -/
theorem tick_of_line {steps : ℕ} (h : steps ≤ mission.duration) {event : Event}
    (hevent : event ∈ (mission.after steps).log) (hline : event.line = some cue.line) :
    event.tick = cue.tick := by
  obtain ⟨other, hother, heq, htick⟩ := mission.cue_of_line h hevent hline
  rw [← htick, List.inj_on_of_nodup_map distinct hother member heq]

/-- A run that comes to the tick of a cue tells of the cue. -/
theorem toldIn_log
    (served : cue.command.Served ((World.start mission.level).devices.view Device.type))
    (played : cue.tick.toNat < mission.duration) :
    cue.ToldIn ((mission.after mission.duration).log.map Event.heading) := by
  have running := mission.running_of_lt played
  have htick := (mission.tick_after running).1
  obtain ⟨back, hlog, hback⟩ := mission.log_split (Nat.succ_le_of_lt played) le_rfl
  have htold : cue.ToldIn ((mission.after cue.tick.toNat).entries.map Event.heading) := by
    apply Engine.toldIn_entries (mission.labelled_after _)
    · rwa [mission_after]
    · rwa [mission_after]
    · exact UInt64.toNat_inj.mp htick.symm
    · rwa [types_after]
  have hsplit := hlog
  rw [mission.after_succ_of_running running, Engine.log_play] at hsplit
  rw [hsplit, List.map_append, List.map_append]
  apply htold.pad
  intro heading hheading hline
  rw [← List.map_append, List.mem_map] at hheading
  obtain ⟨event, hevent, rfl⟩ := hheading
  have hmember : event ∈ (mission.after mission.duration).log := by
    rw [hsplit]
    simp only [List.mem_append] at hevent ⊢
    exact hevent.elim (fun h => .inl (.inl h)) .inr
  have hdate := tick_of_line distinct member le_rfl hmember hline
  rcases List.mem_append.mp hevent with hevent | hevent
  · have hlt := mission.tick_of_mem_log (Nat.le_of_lt played) hevent
    exact Nat.lt_irrefl _ (hdate ▸ hlt)
  · have hlt := hback event hevent
    exact Nat.not_succ_le_self _ (hdate ▸ hlt)

/-- A run that ends before the tick of a cue does not tell of its line. -/
theorem forLine_pending (pending : mission.duration ≤ cue.tick.toNat) :
    Log.forLine (mission.after mission.duration).log cue.line = [] := by
  apply List.filter_eq_nil_iff.mpr
  intro event hevent hline
  have hdate := tick_of_line distinct member le_rfl hevent (of_decide_eq_true hline)
  have hlt := mission.tick_of_mem_log le_rfl hevent
  exact Nat.not_lt.mpr pending (hdate ▸ hlt)

end Mission

/-! ## Whole runs -/

/-- A result has carried out a cue on its tick, or has ended before it. -/
structure RunResult.Executes (result : RunResult) (cue : Script.Cue) : Prop where
  tick_lt : cue.tick < result.tickLimit
  done : cue.tick ≤ result.finalTick →
    result.events.forLine cue.line <:+: result.events ∧
      (result.events.forLine cue.line).map Event.kind = cue.kinds ∧
      ∀ event ∈ result.events.forLine cue.line, event.tick = cue.tick
  pending : result.finalTick < cue.tick → result.events.forLine cue.line = []

theorem Mission.executes_duration {mission : Mission} {cue : Script.Cue}
    (distinct : (mission.cues.map Script.Cue.line).Nodup) (member : cue ∈ mission.cues)
    (early : cue.tick < mission.limit)
    (served : cue.command.Served ((World.start mission.level).devices.view Device.type)) :
    (RunResult.ofEngine (mission.after mission.duration)).Executes cue where
  tick_lt := by rwa [RunResult.tickLimit_ofEngine, mission_after]
  done := by
    intro h
    rw [RunResult.finalTick_ofEngine, UInt64.le_iff_toNat_le] at h
    have hduration := mission.tick_duration
    have htold := toldIn_log distinct member served (by omega)
    rw [RunResult.events_ofEngine]
    refine ⟨htold.forLine.1, htold.forLine.2, ?_⟩
    intro event hevent
    obtain ⟨hlogged, hline⟩ := List.mem_filter.mp hevent
    exact tick_of_line distinct member le_rfl hlogged (of_decide_eq_true hline)
  pending := by
    intro h
    rw [RunResult.finalTick_ofEngine, UInt64.lt_iff_toNat_lt] at h
    have hduration := mission.tick_duration
    exact forLine_pending distinct member (by omega)

/-- The compiler's limit is not above that of the run. -/
theorem Constraints.limitUnder_min_le (constraints : Constraints) (a b : UInt64) :
    constraints.limitUnder (min a b) ≤ constraints.limitUnder b := by
  have hmin (x y : UInt64) : min x y = if x ≤ y then x else y := rfl
  simp only [limitUnder, hmin]
  grind

theorem runScript_eq_ok {level : Level} {source : String} {options : Script.Options}
    {config : Config} {result : RunResult} :
    runScript level source options config = .ok result ↔
      level.fault? = none ∧ ∃ cues,
        Script.compile level { options with ceiling := min options.ceiling config.ceiling } source =
            .ok cues ∧
          simulate level cues config = result := by
  unfold runScript
  cases level.fault? with
  | some fault => simp
  | none =>
      generalize Script.compile level _ source = compiled
      cases compiled with
      | error errors => simp
      | ok cues => simp

/-- A script that passes all checks is carried out: every cue is told of on its tick with exactly
its effect, unless the run has ended before, and no event has a line that is not a cue's. -/
theorem runScript_executes (level : Level) (source : String) (options : Script.Options)
    (config : Config) (few : (Script.trimmedLines source).length < UInt32.size) {result : RunResult}
    (ok : runScript level source options config = .ok result) :
    ∃ cues, Script.compile level { options with ceiling := min options.ceiling config.ceiling } source =
        .ok cues ∧
      (∀ cue ∈ cues, result.Executes cue) ∧
      ∀ event ∈ result.events, ∀ line, event.line = some line →
        ∃ cue ∈ cues, cue.line = line := by
  obtain ⟨hsound, cues, hcompile, rfl⟩ := runScript_eq_ok.mp ok
  have hreliable := Script.reliable_of_compile few hcompile
  rw [RunResult.simulate_eq]
  refine ⟨cues, hcompile, ?_, ?_⟩
  · intro cue member
    apply Mission.executes_duration hreliable.lines_nodup member
    · exact UInt64.lt_of_lt_of_le (hreliable.tick_lt cue member)
        (level.constraints.limitUnder_min_le _ _)
    · exact World.types_start hsound ▸ hreliable.served cue member
  · intro event member line hline
    obtain ⟨cue, hcue, heq, -⟩ := Mission.cue_of_line _ le_rfl member hline
    exact ⟨cue, hcue, heq⟩

theorem runScript_corridor :
    ∃ result, runScript corridor corridorScript {} { storeDigests := false } = .ok result ∧
      ∀ cue ∈ corridorCues, result.Executes cue := by
  have hcompile : Script.compile corridor {} corridorScript = .ok corridorCues := by decide
  have hrun : runScript corridor corridorScript {} { storeDigests := false } =
      .ok (simulate corridor corridorCues { storeDigests := false }) :=
    runScript_eq_ok.mpr ⟨by decide, corridorCues, hcompile, rfl⟩
  obtain ⟨cues, hcues, hexecutes, -⟩ :=
    runScript_executes corridor corridorScript {} { storeDigests := false } (by decide) hrun
  obtain rfl : corridorCues = cues := Except.ok.inj (hcompile.symm.trans hcues)
  exact ⟨_, hrun, hexecutes⟩

end Infiltration
