import Infiltration.Proofs.Run.Aim

/-! # One lock for one shot

A shot has a lock on its target that stands before it in the log, just as many ticks ago as the lock
delay has it, and no mark of the turret stands between the two. A turret that has fired keeps the name
of its target, but the target is gone, so that it has to lock again before it fires again. -/

namespace Infiltration

/-! ## Reading events -/

namespace Event

/-- A turret locks on a target. -/
def IsLock (turret target : String) (event : Event) : Prop :=
  event.kind = .turretTargetLock ∧ event.text? "turretId" = some turret ∧
    event.text? "targetId" = some target

/-- A turret locks or fires, or a script line gives it a new target. -/
def IsMark (turret : String) (event : Event) : Prop :=
  event.kind ∈ [.turretTargetLock, .turretFired, .turretRetargeted] ∧
    event.text? "turretId" = some turret

end Event

namespace Occurrence

variable {occurrence : Occurrence} {id tick : UInt64}

theorem isLock_event {turret target : String} :
    (occurrence.event id tick).IsLock turret target ↔ occurrence = .targetLocked turret target := by
  cases occurrence <;>
    simp [Event.IsLock, event, kind, facts, Event.text?, Payload.text?, Payload.ofList,
      Payload.get?_insert_of_ne, Fact.text?]

theorem isMark_event {turret : String} :
    (occurrence.event id tick).IsMark turret ↔ occurrence.mark? = some turret := by
  cases occurrence <;>
    simp [Event.IsMark, mark?, event, kind, facts, Event.text?, Payload.text?, Payload.ofList,
      Payload.get?_insert_of_ne, Fact.text?]

end Occurrence

theorem not_isMark_of_unmarked {key : String} {occurrences : List Occurrence}
    (unmarked : ∀ occurrence ∈ occurrences, occurrence.mark? ≠ some key) (entered : ℕ)
    (tick : UInt64) : ∀ event ∈ enterFrom entered tick occurrences, ¬event.IsMark key := by
  intro event member mark
  obtain ⟨occurrence, told, id, rfl⟩ := mem_enterFrom member
  exact unmarked occurrence told (Occurrence.isMark_event.mp mark)

/-! ## Locks in the log -/

/-- The last mark of a turret in a log is its lock on a target, so many ticks before a given one as the
turret has counted. -/
def Log.Locks (log : Log) (key : String) (now : ℕ) (turret : Turret) : Prop :=
  ∃ target older lock since, turret.currentTarget = some target ∧ log = older ++ lock :: since ∧
    lock.IsLock key target ∧ lock.tick.toNat + turret.lockTicks.toNat = now ∧
      ∀ event ∈ since, ¬event.IsMark key

theorem Log.Locks.pad {log more : Log} {key : String} {now : ℕ} {turret : Turret}
    (locks : log.Locks key now turret) (unmarked : ∀ event ∈ more, ¬event.IsMark key) :
    Log.Locks (log ++ more) key now turret := by
  obtain ⟨target, older, lock, since, current, rfl, hlock, hnow, hsince⟩ := locks
  refine ⟨target, older, lock, since ++ more, current, by simp, hlock, hnow, ?_⟩
  intro event member
  rcases List.mem_append.mp member with member | member
  · exact hsince event member
  · exact unmarked event member

/-- Of this name no one is left to be taken as a target. -/
def World.Gone (world : World) (target : String) : Prop :=
  target = "player" ∧ world.player.alive = false ∨ world.devices.DroneDown target

theorem Deeds.gone {stages : Set Stage} {world last : World} {occurrences : List Occurrence}
    (deeds : Deeds stages world occurrences last) {target : String} (gone : world.Gone target) :
    last.Gone target := by
  rcases gone with ⟨rfl, dead⟩ | down
  · exact .inl ⟨rfl, by rw [deeds.player_of_dead dead, dead]⟩
  · exact .inr (deeds.droneDown down)

/-- Whoever is hit is gone. -/
theorem Deeds.gone_of_hit {stages : Set Stage} {world last : World} {occurrences : List Occurrence}
    (deeds : Deeds stages world occurrences last) {target : Target} {key : String}
    (hit : target.hit key ∈ occurrences) : last.Gone target.id := by
  cases target with
  | player => exact .inl ⟨rfl, deeds.dead_of_told hit⟩
  | drone id => exact .inr (deeds.down_of_told hit).2

namespace Mission

variable {mission : Mission} {key : String} {on : Bool} {steps : ℕ} {turret ready next : Turret}

/-- Who is taken as a target is not gone. -/
theorem not_gone_of_aim (distinct : mission.level.NoNamesake) {target : Target}
    (aim : (mission.after steps).aim? key = some target) :
    ¬((mission.after steps).faced key).Gone target.id := by
  have labelled : ((mission.after steps).faced key).devices.Labelled :=
    Engine.labelled_faced (mission.labelled_after steps)
  obtain ⟨device, turret, -, -, -, -, aimed⟩ := World.aim?_eq_some.mp aim
  cases target with
  | player =>
      obtain ⟨-, near⟩ := World.target?_eq_player.mp aimed
      rw [Player.inRange, Bool.and_eq_true] at near
      rintro (⟨-, dead⟩ | ⟨drone, found, -, part, kind, -⟩)
      · exact absurd (dead.symm.trans near.1) Bool.false_ne_true
      · obtain ⟨device, hdevice, htype⟩ := Roster.find?_of_view_eq (types_faced steps) found
        obtain ⟨member, hid⟩ := Roster.mem_of_find?_ofDevices hdevice
        exact distinct device member (by rw [htype, Device.type, kind, Equipment.type]) hid
  | drone id =>
      obtain ⟨-, drone, found, up, -⟩ :=
        (Roster.desiredDrone?_eq_some labelled).mp (World.target?_eq_drone.mp aimed)
      rintro (⟨hname, -⟩ | down)
      · obtain ⟨device, member, type, hid⟩ := drone_of_aim aim
        exact distinct device member type (hid.trans hname)
      · exact down.not_up ⟨drone, found, up⟩

/-- What a log and a world remember of a turret's hold: a hold that counts ticks began with a lock, and
one that counts none is on a target that is gone. -/
structure Remembers (key : String) (now : ℕ) (log : Log) (world : World) (turret : Turret) : Prop where
  locked : turret.lockTicks ≠ 0 → log.Locks key now turret
  spent : turret.lockTicks = 0 → ∀ target, turret.currentTarget = some target → world.Gone target

theorem remembers_of_released {now : ℕ} {log : Log} {world : World}
    (idle : turret.lockTicks = 0) (free : turret.currentTarget = none) :
    Remembers key now log world turret := by
  refine ⟨fun h => absurd idle h, ?_⟩
  intro _ target held
  rw [free] at held
  cases held

theorem Remembers.awaits {now : ℕ} {log : Log} {world last : World}
    (memory : Remembers key now log world turret) {stages : Set Stage} {told : List Occurrence}
    (deeds : Deeds stages world told last) (awaits : turret.Awaits key told ready) (entered : ℕ)
    (tick : UInt64) : Remembers key now (log ++ enterFrom entered tick told) last ready := by
  cases awaits with
  | lost current ticks => exact remembers_of_released ticks current
  | kept current ticks unmarked =>
      refine ⟨?_, ?_⟩
      · intro hticks
        obtain ⟨target, older, lock, since, h⟩ := memory.locked (ticks ▸ hticks)
        rw [← current, ← ticks] at h
        exact Log.Locks.pad ⟨target, older, lock, since, h⟩
          (not_isMark_of_unmarked unmarked entered tick)
      · intro hticks target held
        exact deeds.gone (memory.spent (ticks ▸ hticks) target (current ▸ held))

/-- A turret that tracks a target has its lock on it in the log, perhaps just now. -/
theorem Remembers.track {log : Log} {world : World} {now : ℕ} {tick : UInt64}
    (memory : Remembers key now log world turret) (htick : tick.toNat = now)
    (early : turret.lockTicks.toNat < max 1 turret.lockDelay.toNat) {target : String}
    (present : ¬world.Gone target) (entered : ℕ) :
    Log.Locks (log ++ enterFrom entered tick (turret.announceLock key target)) key (now + 1)
      (turret.track target) := by
  have hticks := turret.toNat_track target early
  by_cases same : turret.currentTarget = some target
  · rw [if_pos same] at hticks
    have counted : turret.lockTicks ≠ 0 := fun idle => present (memory.spent idle target same)
    obtain ⟨target', older, lock, since, held, hlog, hlock, hnow, hsince⟩ := memory.locked counted
    obtain rfl : target' = target := Option.some.inj (held.symm.trans same)
    refine ⟨target', older, lock, since, turret.currentTarget_track target', ?_, hlock, by omega,
      hsince⟩
    simpa [Turret.announceLock, same, enterFrom] using hlog
  · rw [if_neg same] at hticks
    have htold : turret.announceLock key target = [.targetLocked key target] := if_neg same
    rw [htold]
    exact ⟨target, log, _, [], turret.currentTarget_track target, rfl,
      Occurrence.isLock_event.mpr rfl, by rw [hticks]; exact congrArg (· + 1) htick, by simp⟩

theorem Remembers.turn {now : ℕ} {log : Log} {world : World} {tick : UInt64} {aim : Option Target}
    {told : List Occurrence} (memory : Remembers key now log world ready) (htick : tick.toNat = now)
    (grip : mission.Grip key on now ready) (turn : ready.Turn key on aim told next)
    (present : ∀ target, aim = some target → ¬world.Gone target.id) {stages : Set Stage}
    {last : World} (deeds : Deeds stages world told last) (entered : ℕ) :
    Remembers key (now + 1) (log ++ enterFrom entered tick told) last next := by
  cases turn with
  | off =>
      have idle := grip.idle_of_off rfl
      exact ⟨fun counted => absurd idle counted,
        fun _ target held => deeds.gone (memory.spent idle target held)⟩
  | idle => exact remembers_of_released rfl rfl
  | @held target early =>
      have hticks := ready.toNat_track target.id grip.early
      refine ⟨fun _ => memory.track htick grip.early (present target rfl) entered, ?_⟩
      intro idle
      rw [idle, UInt32.toNat_zero] at hticks
      split at hticks <;> omega
  | @fired target =>
      refine ⟨fun counted => absurd rfl counted, ?_⟩
      intro _ name held
      obtain rfl : target.id = name :=
        Option.some.inj ((ready.currentTarget_track target.id).symm.trans held)
      have hit : target.hit key ∈
          ready.announceLock key target.id ++ [.turretFired key target.id, target.hit key] := by
        simp
      exact deeds.gone_of_hit hit

/-! ## One tick after the other -/

/-- The events of a tick: those before a turret's turn, on it and after it. -/
theorem entries_eq {device : Device}
    (found : (mission.after steps).world.devices.find? key = some device) :
    ∃ entered entered' entered'', (mission.after steps).entries =
      enterFrom entered (mission.after steps).world.tick ((mission.after steps).foretold key) ++
        enterFrom entered' (mission.after steps).world.tick ((mission.after steps).served key).2 ++
          enterFrom entered'' (mission.after steps).world.tick
            ((mission.after steps).aftermath key) := by
  rw [Engine.entries, Engine.occurrences_served (mission.labelled_after steps)
    (Engine.mem_keys found), enterFrom_append, enterFrom_append]
  exact ⟨_, _, _, rfl⟩

theorem remembers_after (unheld : mission.level.Unheld) (distinct : mission.level.NoNamesake)
    {steps : ℕ} (h : steps ≤ mission.duration) {device : Device} {turret : Turret}
    (found : (mission.after steps).world.devices.find? key = some device)
    (kind : device.turret? = some turret) :
    Remembers key steps (mission.after steps).log (mission.after steps).world turret := by
  refine mission.stint_induction
    (P := fun steps _ turret =>
      Remembers key steps (mission.after steps).log (mission.after steps).world turret)
    ?_ ?_ h found kind
  · intro device member turret kind
    obtain ⟨free, idle⟩ := unheld device member turret kind
    exact remembers_of_released idle free
  · intro steps hsteps device turret ready next found kind stint memory
    have labelled := mission.labelled_after steps
    have running := mission.running_of_lt hsteps
    have grip := (grip_after unheld (Nat.le_of_lt hsteps) found kind).awaits stint.awaits
      stint.make_eq
    obtain ⟨entered, entered', entered'', hentries⟩ := entries_eq found
    have hready := memory.awaits (Engine.foretold_deeds labelled) stint.awaits entered
      (mission.after steps).world.tick
    have hturned := hready.turn (mission.tick_after running).1 grip stint.turn
      (fun _ => not_gone_of_aim distinct) Engine.served_deeds entered'
    have hafter := Engine.aftermath_deeds labelled (Engine.mem_keys found)
    have hunmarked := not_isMark_of_unmarked (fun occurrence member =>
      (Engine.aftermath_apart labelled (Engine.mem_keys found) occurrence member).2) entered''
      (mission.after steps).world.tick
    rw [mission.after_succ_of_running running, Engine.log_play, hentries, Engine.world_play]
    refine ⟨?_, ?_⟩
    · intro counted
      simpa only [List.append_assoc] using (hturned.locked counted).pad hunmarked
    · intro idle target held
      have gone := hafter.gone (hturned.spent idle target held)
      simpa only [World.Gone, devices_settle, player_settle] using gone

/-! ## Shots and their locks -/

/-- The place of a shot in its tick: after all that comes before the turn, and its lock if it has just
been told. -/
theorem place_of_shot {step : ℕ} {target : String} {device : Device} {before after : List Occurrence}
    (found : (mission.after step).world.devices.find? key = some device)
    (heq : (mission.after step).occurrences = before ++ .turretFired key target :: after)
    {aimed : Target} (told : ((mission.after step).served key).2 =
      turret.announceLock key aimed.id ++ [.turretFired key aimed.id, aimed.hit key]) :
    before = (mission.after step).foretold key ++ turret.announceLock key aimed.id ∧
      aimed.id = target := by
  have labelled := mission.labelled_after step
  have hlock : .turretFired key target ∉ turret.announceLock key aimed.id := by
    unfold Turret.announceLock
    split <;> simp
  have hfront : .turretFired key target ∉
      (mission.after step).foretold key ++ turret.announceLock key aimed.id := by
    rw [List.mem_append]
    rintro (member | member)
    · exact Engine.foretold_apart labelled _ member rfl
    · exact hlock member
  have hback : .turretFired key target ∉ aimed.hit key :: (mission.after step).aftermath key := by
    rw [List.mem_cons]
    rintro (hhit | member)
    · cases aimed <;> simp [Target.hit] at hhit
    · exact (Engine.aftermath_apart labelled (Engine.mem_keys found) _ member).1 rfl
  have hplace : ((mission.after step).foretold key ++ turret.announceLock key aimed.id) ++
      .turretFired key aimed.id :: (aimed.hit key :: (mission.after step).aftermath key) =
        before ++ .turretFired key target :: after := by
    rw [← heq, Engine.occurrences_served labelled (Engine.mem_keys found), told]
    simp
  obtain ⟨hbefore, hshot, -⟩ := (List.append_cons_inj_of_notMem hfront hback).mp hplace
  exact ⟨hbefore.symm, by simpa using hshot⟩

/-- A shot has its lock. -/
theorem locked_of_shot (unheld : mission.level.Unheld) (distinct : mission.level.NoNamesake)
    {front back : Log} {shot : Event} {target : String}
    (heq : (mission.after mission.duration).log = front ++ shot :: back)
    (fired : shot.IsShot key target) :
    ∃ turret, (World.start mission.level).devices.part? key Device.turret? = some turret ∧
      ∃ older lock between, front = older ++ lock :: between ∧ lock.IsLock key target ∧
        lock.tick.toNat + max 1 turret.lockDelay.toNat = shot.tick.toNat + 1 ∧
          ∀ event ∈ between, ¬event.IsMark key := by
  obtain ⟨step, hstep, entries, rest, hentries, rfl⟩ := mission.split_log le_rfl heq
  obtain ⟨before, occurrence, after, id, hplace, rfl, rfl⟩ := split_enterFrom hentries
  obtain rfl := Occurrence.isShot_event.mp fired
  have labelled := mission.labelled_after step
  have member : .turretFired key target ∈ (mission.after step).occurrences := by simp [hplace]
  obtain ⟨device, turret, ready, next, found, kind, stint, told⟩ :=
    Engine.stint_of_shooter labelled member rfl
  obtain ⟨aimed, aim, hready, htold, -⟩ := stint.turn.fires told (by simp [Occurrence.kind])
  obtain ⟨rfl, rfl⟩ := place_of_shot found hplace htold
  obtain ⟨authored, turret', hauthored, kind', -, hmake⟩ :=
    Roster.emplaced_of_view_eq (mission.emplacements_after step) found kind
  refine ⟨turret', Roster.part?_eq_some.mpr ⟨authored, hauthored, kind'⟩, ?_⟩
  have hdelay : turret'.lockDelay = ready.lockDelay := by
    rw [Turret.lockDelay_of_make_eq hmake, Turret.lockDelay_of_make_eq stint.make_eq]
  have htick := (mission.tick_after (mission.running_of_lt hstep)).1
  have early := ((grip_after unheld (Nat.le_of_lt hstep) found kind).awaits stint.awaits
    stint.make_eq).early
  have memory := (remembers_after unheld distinct (Nat.le_of_lt hstep) found kind).awaits
    (Engine.foretold_deeds labelled) stint.awaits (mission.after step).entered
    (mission.after step).world.tick
  obtain ⟨name, older, lock, since, held, hlog, hlock, hnow, hsince⟩ := memory.track htick early
    (not_gone_of_aim distinct aim)
    ((mission.after step).entered + ((mission.after step).foretold key).length)
  obtain rfl : name = aimed.id :=
    Option.some.inj (held.symm.trans (ready.currentTarget_track aimed.id))
  refine ⟨older, lock, since, ?_, hlock, ?_, hsince⟩
  · rw [enterFrom_append, ← List.append_assoc, hlog]
  · have hticks := ready.toNat_track aimed.id early
    change lock.tick.toNat + max 1 turret'.lockDelay.toNat =
      (mission.after step).world.tick.toNat + 1
    rw [UInt32.le_iff_toNat_le] at hready
    rw [htick, ← hnow, hdelay]
    split at hticks <;> omega

end Mission

/-- How the locks of a run go: each shot has its lock, as long ago as the lock delay has it, with no mark
of the turret between; so between two shots stands a lock; and no turret holds a target in a frame
for as long as its lock delay. -/
structure RunResult.LocksTimed (level : Level) (result : RunResult) : Prop where
  locked : ∀ front shot back, result.events = front ++ shot :: back → ∀ key target,
    shot.IsShot key target →
      ∃ turret, (World.start level).devices.part? key Device.turret? = some turret ∧
        ∃ older lock between, front = older ++ lock :: between ∧ lock.IsLock key target ∧
          lock.tick.toNat + max 1 turret.lockDelay.toNat = shot.tick.toNat + 1 ∧
            ∀ event ∈ between, ¬event.IsMark key
  relocked : ∀ front first middle second back,
    result.events = front ++ first :: (middle ++ second :: back) → ∀ key target target',
      first.IsShot key target → second.IsShot key target' → ∃ lock ∈ middle, lock.IsLock key target'
  early : ∀ key authored, (World.start level).devices.part? key Device.turret? = some authored →
    ∀ frame ∈ result.frames, ∃ turret,
      frame.snapshot.devices.part? key Device.turret? = some turret ∧
        turret.lockDelay = authored.lockDelay ∧
          turret.lockTicks.toNat < max 1 authored.lockDelay.toNat

theorem Event.IsShot.isMark {event : Event} {turret target : String} (h : event.IsShot turret target) :
    event.IsMark turret :=
  ⟨by simp [h.1], h.2.1⟩

namespace Mission

variable {mission : Mission} (unheld : mission.level.Unheld) (distinct : mission.level.NoNamesake)

include unheld

theorem early_scene {key : String} {authored : Turret}
    (present : (World.start mission.level).devices.part? key Device.turret? = some authored)
    {step : ℕ} (h : step < mission.duration) :
    ∃ turret, (mission.after step).closed.1.devices.part? key Device.turret? = some turret ∧
      turret.lockDelay = authored.lockDelay ∧
        turret.lockTicks.toNat < max 1 authored.lockDelay.toNat := by
  obtain ⟨device, found, kind⟩ := Roster.part?_eq_some.mp present
  obtain ⟨later, turret, hlater, kind', -, hmake⟩ :=
    Roster.emplaced_of_view_eq (mission.emplacements_after (step + 1)).symm found kind
  have hdelay := Turret.lockDelay_of_make_eq hmake
  have early := (grip_after unheld h hlater kind').early
  rw [mission.devices_after_succ h] at hlater
  exact ⟨turret, Roster.part?_eq_some.mpr ⟨later, hlater, kind'⟩, hdelay, hdelay ▸ early⟩

include distinct

theorem locksTimed_duration :
    (RunResult.ofEngine (mission.after mission.duration)).LocksTimed mission.level := by
  refine ⟨?_, ?_, ?_⟩
  · intro front shot back heq key target fired
    exact locked_of_shot unheld distinct heq fired
  · intro front first middle second back heq key target target' hfirst hsecond
    rw [← List.cons_append, ← List.append_assoc] at heq
    obtain ⟨-, -, older, lock, between, hplace, hlock, -, hbetween⟩ :=
      locked_of_shot unheld distinct heq hsecond
    have hne : first ≠ lock := by
      rintro rfl
      cases hfirst.1.symm.trans hlock.1
    -- The first shot marks the turret, so it does not stand after the lock.
    rcases List.append_eq_append_iff.mp hplace with ⟨gap, -, hgap⟩ | ⟨gap, -, hgap⟩
    · cases gap with
      | nil => exact absurd (List.cons.inj hgap).1 hne
      | cons other gap =>
          exact ⟨lock, by simp [(List.cons.inj hgap).2], hlock⟩
    · cases gap with
      | nil => exact absurd (List.cons.inj hgap).1.symm hne
      | cons other gap =>
          have member : first ∈ between := by simp [(List.cons.inj hgap).2]
          exact absurd hfirst.isMark (hbetween first member)
  · intro key authored present frame member
    obtain ⟨step, hstep, rfl⟩ := mission.mem_frames member
    exact early_scene unheld present hstep

end Mission

/-- Where no drone goes by the player's name, locks and shots come in turn, a lock delay apart. -/
theorem simulate_locksTimed (level : Level) (cues : List Script.Cue) (config : Config)
    (unheld : level.Unheld) (distinct : level.NoNamesake) :
    (simulate level cues config).LocksTimed level := by
  have hdistinct : (Mission.of level cues config).level.NoNamesake := distinct
  rw [RunResult.simulate_eq]
  exact Mission.locksTimed_duration unheld hdistinct

theorem simulate_flyby_locks :
    (flyby "decoy").Unheld ∧ (flyby "decoy").NoNamesake ∧
      (∃ event ∈ (simulate (flyby "decoy") [] { storeDigests := false }).events,
        event.IsShot "sentry" "player") ∧
      (simulate (flyby "decoy") [] { storeDigests := false }).LocksTimed (flyby "decoy") := by
  have unheld : (flyby "decoy").Unheld := by decide +kernel
  have distinct : (flyby "decoy").NoNamesake := by decide +kernel
  exact ⟨unheld, distinct, by decide +kernel,
    simulate_locksTimed (flyby "decoy") [] { storeDigests := false } unheld distinct⟩

end Infiltration
