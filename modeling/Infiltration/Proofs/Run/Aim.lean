import Infiltration.Proofs.Run.Shot

/-! # Held targets

The hold of a turret counts the last ticks on which it took a target of one name. Where no drone goes
by the player's name, a name stands for one target, and whoever is hit has been the target for the
whole lock delay. -/

namespace Infiltration

/-- No turret of the level holds a target yet. -/
def Level.Unheld (level : Level) : Prop :=
  ∀ device ∈ level.devices, ∀ turret ∈ device.turret?,
    turret.currentTarget = none ∧ turret.lockTicks = 0

/-- No drone of the level goes by the name under which the player stands in the log. -/
def Level.NoNamesake (level : Level) : Prop :=
  ∀ device ∈ level.devices, device.type = .drone → device.id ≠ "player"

instance (level : Level) : Decidable level.Unheld := inferInstanceAs (Decidable (∀ _ ∈ _, _))

instance (level : Level) : Decidable level.NoNamesake := inferInstanceAs (Decidable (∀ _ ∈ _, _))

theorem Turret.currentTarget_track (turret : Turret) (target : String) :
    (turret.track target).currentTarget = some target := by
  unfold track
  split
  · assumption
  · rfl

/-- The count of a turret that has not held long enough goes up by one, or starts at one. -/
theorem Turret.toNat_track (turret : Turret) (target : String)
    (early : turret.lockTicks.toNat < max 1 turret.lockDelay.toNat) :
    (turret.track target).lockTicks.toNat =
      if turret.currentTarget = some target then turret.lockTicks.toNat + 1 else 1 := by
  have hbound := turret.lockDelay.toNat_lt
  unfold track
  split
  · rw [UInt32.toNat_add, UInt32.toNat_one, Nat.mod_eq_of_lt (by omega)]
  · rfl

namespace Mission

/-- A turret takes one target on a tick and on those before it, so many in all. -/
def Holds (mission : Mission) (key : String) (target : Target) (ticks last : ℕ) : Prop :=
  ticks ≤ last + 1 ∧
    ∀ step ≤ last, last < step + ticks → (mission.after step).aim? key = some target

/-- A turret takes one target on every tick of its lock delay, the last of them given. -/
def HoldsDelay (mission : Mission) (key : String) (target : Target) (last : ℕ) : Prop :=
  ∃ turret, (World.start mission.level).devices.part? key Device.turret? = some turret ∧
    mission.Holds key target (max 1 turret.lockDelay.toNat) last

/-- Whoever a turret hits has been its target for its whole lock delay. -/
structure HitsHeld (mission : Mission) (result : RunResult) : Prop where
  killed : ∀ (i : ℕ) (frame : Frame), result.frames[i]? = some frame → ∀ event ∈ frame.events,
    ∀ key, event.IsKill key → mission.HoldsDelay key .player i
  destroyed : ∀ (i : ℕ) (frame : Frame), result.frames[i]? = some frame → ∀ event ∈ frame.events,
    ∀ drone key, event.IsWreck drone key → mission.HoldsDelay key (.drone drone) i

/-- The hold of a turret counts the last of so many ticks, on which it took targets of the name that
it holds. -/
structure Counts (mission : Mission) (key : String) (steps : ℕ) (turret : Turret) : Prop where
  ticks_le : turret.lockTicks.toNat ≤ steps
  aimed : ∀ step < steps, steps ≤ step + turret.lockTicks.toNat →
    ∃ target, (mission.after step).aim? key = some target ∧ turret.currentTarget = some target.id

/-- What the hold of a turret, switched on or off, is like when a tick begins. -/
structure Grip (mission : Mission) (key : String) (on : Bool) (steps : ℕ) (turret : Turret) : Prop where
  counts : mission.Counts key steps turret
  early : turret.lockTicks.toNat < max 1 turret.lockDelay.toNat
  idle_of_off : on = false → turret.lockTicks = 0

variable {mission : Mission} {key : String} {on : Bool} {steps : ℕ} {turret ready next : Turret}

theorem counts_of_idle (idle : turret.lockTicks = 0) : mission.Counts key steps turret := by
  refine ⟨by simp [idle], ?_⟩
  intro step hstep hle
  rw [idle, UInt32.toNat_zero] at hle
  omega

theorem grip_of_idle (idle : turret.lockTicks = 0) : mission.Grip key on steps turret :=
  ⟨counts_of_idle idle, by rw [idle, UInt32.toNat_zero]; omega, fun _ => idle⟩

/-- To track a target adds the tick to those that are counted, or begins to count anew. -/
theorem Grip.track (grip : mission.Grip key on steps turret) {target : Target}
    (aim : (mission.after steps).aim? key = some target) :
    mission.Counts key (steps + 1) (turret.track target.id) := by
  have hticks := turret.toNat_track target.id grip.early
  have hle := grip.counts.ticks_le
  by_cases same : turret.currentTarget = some target.id
  · rw [if_pos same] at hticks
    refine ⟨by omega, ?_⟩
    intro step hstep hcounted
    rw [turret.currentTarget_track]
    rcases Nat.lt_succ_iff_lt_or_eq.mp hstep with hstep | rfl
    · obtain ⟨target', aim', held⟩ := grip.counts.aimed step hstep (by omega)
      exact ⟨target', aim', same.symm.trans held⟩
    · exact ⟨target, aim, rfl⟩
  · rw [if_neg same] at hticks
    refine ⟨by omega, ?_⟩
    intro step hstep hcounted
    obtain rfl : step = steps := by omega
    exact ⟨target, aim, turret.currentTarget_track target.id⟩

theorem Grip.awaits (grip : mission.Grip key on steps turret) {told : List Occurrence}
    (awaits : turret.Awaits key told ready) (make : ready.make = turret.make) :
    mission.Grip key on steps ready := by
  cases awaits with
  | kept current ticks =>
      refine ⟨⟨?_, ?_⟩, ?_, ?_⟩
      · rw [ticks]
        exact grip.counts.ticks_le
      · rw [ticks, current]
        exact grip.counts.aimed
      · rw [ticks, Turret.lockDelay_of_make_eq make]
        exact grip.early
      · rw [ticks]
        exact grip.idle_of_off
  | lost _ ticks => exact grip_of_idle ticks

theorem Grip.turn (grip : mission.Grip key on steps turret) {told : List Occurrence}
    (turn : turret.Turn key on ((mission.after steps).aim? key) told next) :
    mission.Grip key on (steps + 1) next := by
  generalize haim : (mission.after steps).aim? key = aim at turn
  cases turn with
  | off => exact grip_of_idle (grip.idle_of_off rfl)
  | idle => exact grip_of_idle rfl
  | @held target early =>
      have hdelay : (turret.track target.id).lockDelay = turret.lockDelay := by
        unfold Turret.track
        split <;> rfl
      rw [UInt32.lt_iff_toNat_lt] at early
      exact ⟨grip.track haim, by rw [hdelay]; omega, by simp⟩
  | fired => exact grip_of_idle rfl

/-- From turrets that hold nothing every turret comes to each of its ticks with such a hold. -/
theorem grip_after (unheld : mission.level.Unheld) {steps : ℕ} (h : steps ≤ mission.duration)
    {device : Device} {turret : Turret}
    (found : (mission.after steps).world.devices.find? key = some device)
    (kind : device.turret? = some turret) : mission.Grip key device.enabled steps turret := by
  refine mission.stint_induction (P := fun steps on turret => mission.Grip key on steps turret)
    ?_ ?_ h found kind
  · intro device member turret kind
    exact grip_of_idle (unheld device member turret kind).2
  · intro steps _ device turret ready next _ _ stint grip
    exact (grip.awaits stint.awaits stint.make_eq).turn stint.turn

/-! ## Targets and their names -/

theorem types_faced (step : ℕ) :
    ((mission.after step).faced key).devices.view Device.type =
      (World.start mission.level).devices.view Device.type :=
  (Engine.foretold_deeds (mission.labelled_after step)).types_eq.trans (mission.types_after step)

/-- Whatever a turret takes but the player is a drone of the level. -/
theorem drone_of_aim {step : ℕ} {id : String}
    (aim : (mission.after step).aim? key = some (.drone id)) :
    ∃ device ∈ mission.level.devices, device.type = .drone ∧ device.id = id := by
  obtain ⟨_, turret, -, -, -, -, aim⟩ := World.aim?_eq_some.mp aim
  have labelled : ((mission.after step).faced key).devices.Labelled :=
    Engine.labelled_faced (mission.labelled_after step)
  obtain ⟨-, drone, found, up, -⟩ :=
    (Roster.desiredDrone?_eq_some labelled).mp (World.target?_eq_drone.mp aim)
  obtain ⟨-, part, kind, -⟩ := Device.upDrone_eq_true.mp up
  obtain ⟨device, hdevice, htype⟩ := Roster.find?_of_view_eq (types_faced step) found
  obtain ⟨member, hid⟩ := Roster.mem_of_find?_ofDevices hdevice
  exact ⟨device, member, by rw [htype, Device.type, kind, Equipment.type], hid⟩

/-- Without a namesake of the player, targets of one name are one target. -/
theorem aim_eq_of_id (distinct : mission.level.NoNamesake) {first second : ℕ} {a b : Target}
    (aim : (mission.after first).aim? key = some a) (aim' : (mission.after second).aim? key = some b)
    (h : a.id = b.id) : a = b := by
  have unnamed {step : ℕ} : (mission.after step).aim? key ≠ some (.drone "player") := by
    intro aim
    obtain ⟨device, member, type, hid⟩ := drone_of_aim aim
    exact distinct device member type hid
  cases a with
  | player =>
      cases b with
      | player => rfl
      | drone id =>
          obtain rfl : "player" = id := h
          exact absurd aim' unnamed
  | drone id =>
      cases b with
      | player =>
          obtain rfl : id = "player" := h
          exact absurd aim unnamed
      | drone other => exact congrArg Target.drone h

/-- A turret that fires has taken its target on every tick of its lock delay. -/
theorem holds_of_fired (unheld : mission.level.Unheld) (distinct : mission.level.NoNamesake)
    {step : ℕ} (h : step < mission.duration) {occurrence : Occurrence}
    (told : occurrence ∈ (mission.after step).occurrences) {target : Target}
    (hit : occurrence = target.hit key) :
    mission.HoldsDelay key target step := by
  have labelled := mission.labelled_after step
  have shooter : occurrence.shooter? = some key := by
    rw [hit]
    cases target <;> rfl
  obtain ⟨device, turret, ready, next, found, kind, stint, told⟩ :=
    Engine.stint_of_shooter labelled told shooter
  obtain ⟨authored, turret', hauthored, kind', -, hmake⟩ :=
    Roster.emplaced_of_view_eq (mission.emplacements_after step) found kind
  refine ⟨turret', Roster.part?_eq_some.mpr ⟨authored, hauthored, kind'⟩, ?_⟩
  have unlocked : occurrence.kind ≠ .turretTargetLock := by
    rw [hit]
    cases target <;> simp [Target.hit, Occurrence.kind]
  obtain ⟨aimed, aim, hready, -, hfired⟩ := stint.turn.fires told unlocked
  obtain rfl : target = aimed := by
    rcases hfired with rfl | rfl
    · cases target <;> simp [Target.hit] at hit
    · cases target <;> cases aimed <;> simp_all [Target.hit]
  have grip := (grip_after unheld (Nat.le_of_lt h) found kind).awaits stint.awaits stint.make_eq
  have counts := grip.track aim
  have hcount := ready.toNat_track target.id grip.early
  have hdelay : turret'.lockDelay = ready.lockDelay := by
    rw [Turret.lockDelay_of_make_eq hmake, Turret.lockDelay_of_make_eq stint.make_eq]
  have hticks : max 1 turret'.lockDelay.toNat ≤ (ready.track target.id).lockTicks.toNat := by
    rw [UInt32.le_iff_toNat_le] at hready
    rw [hdelay]
    split at hcount <;> omega
  refine ⟨hticks.trans counts.ticks_le, ?_⟩
  intro other hother hlast
  obtain ⟨target', aim', held⟩ := counts.aimed other (Nat.lt_succ_of_le hother) (by omega)
  rw [ready.currentTarget_track, Option.some.injEq] at held
  rw [aim', aim_eq_of_id distinct aim' aim held.symm]

theorem hitsHeld_duration (unheld : mission.level.Unheld) (distinct : mission.level.NoNamesake) :
    mission.HitsHeld (RunResult.ofEngine (mission.after mission.duration)) := by
  refine ⟨?_, ?_⟩
  · intro step frame hframe event member key kill
    obtain ⟨hstep, rfl⟩ := mission.getElem?_frames hframe
    obtain ⟨occurrence, told, id, rfl⟩ := mem_enterFrom member
    exact holds_of_fired unheld distinct hstep told (Occurrence.isKill_event.mp kill)
  · intro step frame hframe event member drone key wreck
    obtain ⟨hstep, rfl⟩ := mission.getElem?_frames hframe
    obtain ⟨occurrence, told, id, rfl⟩ := mem_enterFrom member
    exact holds_of_fired unheld distinct hstep told (Occurrence.isWreck_event.mp wreck)

end Mission

/-- A lock is not carried over from one target to another, unless a drone goes by the player's name. -/
theorem simulate_hitsHeld (level : Level) (cues : List Script.Cue) (config : Config)
    (unheld : level.Unheld) (distinct : level.NoNamesake) :
    (Mission.of level cues config).HitsHeld (simulate level cues config) := by
  rw [RunResult.simulate_eq]
  exact Mission.hitsHeld_duration unheld distinct

/-- The player stands beside a turret that was told to take a drone. On the second tick the drone
leaves the turret's range. -/
def flyby (drone : String) : Level where
  id := "flyby"
  map := { width := 5, height := 1 }
  entry := ⟨0, 0⟩
  exit := ⟨4, 0⟩
  playerPath := [⟨0, 0⟩]
  devices :=
    [{ id := "sentry"
       position := ⟨1, 0⟩
       equipment :=
        .turret { range := 1, lockDelay := 2, trigger := .always, desiredTarget := some drone } },
      .newDrone drone [⟨2, 0⟩, ⟨4, 0⟩] 2]
  networkScope := []
  constraints := { maxLines := 4, maxCommands := 4, maxDelay := 4, tickLimit := 2 }

theorem simulate_flyby_held :
    (flyby "decoy").Unheld ∧ (flyby "decoy").NoNamesake ∧
      (∃ event ∈ (simulate (flyby "decoy") [] { storeDigests := false }).events,
        event.IsKill "sentry") ∧
      (Mission.of (flyby "decoy") [] { storeDigests := false }).HitsHeld
        (simulate (flyby "decoy") [] { storeDigests := false }) := by
  have unheld : (flyby "decoy").Unheld := by decide +kernel
  have distinct : (flyby "decoy").NoNamesake := by decide +kernel
  exact ⟨unheld, distinct, by decide +kernel,
    simulate_hitsHeld (flyby "decoy") [] { storeDigests := false } unheld distinct⟩

/-- On a drone called "player" a turret begins the lock with which it kills the player. -/
theorem not_hitsHeld_namesake :
    (flyby "player").fault? = none ∧ (flyby "player").Unheld ∧
      ¬(Mission.of (flyby "player") [] { storeDigests := false }).HitsHeld
        (simulate (flyby "player") [] { storeDigests := false }) := by
  refine ⟨by decide +kernel, by decide +kernel, ?_⟩
  intro held
  have hkill : ∃ frame ∈ (simulate (flyby "player") [] { storeDigests := false }).frames[1]?,
      ∃ event ∈ frame.events, event.IsKill "sentry" := by decide +kernel
  obtain ⟨frame, hframe, event, member, kill⟩ := hkill
  obtain ⟨turret, hturret, -, aimed⟩ := held.killed 1 frame hframe event member "sentry" kill
  have hdelay : ∀ turret ∈ (World.start (flyby "player")).devices.part? "sentry" Device.turret?,
      turret.lockDelay.toNat = 2 := by decide +kernel
  have haim : ((Mission.of (flyby "player") [] { storeDigests := false }).after 0).aim? "sentry" =
      some (.drone "player") := by decide +kernel
  have hplayer := aimed 0 (by omega) (by rw [hdelay turret hturret]; omega)
  rw [haim] at hplayer
  cases hplayer

end Infiltration
