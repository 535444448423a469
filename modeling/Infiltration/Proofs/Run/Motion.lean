import Infiltration.Proofs.Run.Ending
import Infiltration.Proofs.Run.Parts
import Infiltration.Proofs.Tick.Persistence

/-! # How the player moves

Before the player's own turn a tick can only kill. On that turn a living player takes the next cell of
the path unless a closed door stands there, and is out on the exit cell, also when the path ends
there. So the player never leaves the path, and is blocked exactly while a door is in the way. -/

namespace Infiltration

attribute [local irreducible] Mission.opening Mission.closing

/-! ## Doors in the way -/

/-- A device is a closed door on a cell. -/
def Device.Bars (device : Device) (cell : Point) : Prop :=
  device.position = cell ∧ ∃ door, device.equipment = .door door ∧ door.isOpen = false

namespace Roster

/-- A door is the first of the closed ones on a cell. -/
def FirstBar (roster : Roster) (cell : Point) (door : Device) : Prop :=
  ∃ front back, roster.devices = front ++ door :: back ∧ door.Bars cell ∧
    ∀ other ∈ front, ¬other.Bars cell

/-- No closed door stands on a cell. -/
def Free (roster : Roster) (cell : Point) : Prop := ∀ device ∈ roster.devices, ¬device.Bars cell

variable {roster : Roster} {cell : Point}

theorem bars_iff {device : Device} :
    (decide (device.position = cell) && device.door?.any fun door => !door.isOpen) = true ↔
      device.Bars cell := by
  cases h : device.equipment <;> simp [Device.Bars, Device.door?, h]

theorem closedDoorAt_eq_some {door : Device} :
    roster.closedDoorAt cell = some door ↔ roster.FirstBar cell door := by
  rw [closedDoorAt, List.find?_eq_some_iff_append, bars_iff]
  constructor
  · rintro ⟨bars, front, back, heq, clear⟩
    refine ⟨front, back, heq, bars, fun other member => ?_⟩
    rw [← bars_iff, Bool.not_eq_true, ← Bool.not_eq_true']
    exact clear other member
  · rintro ⟨front, back, heq, bars, clear⟩
    refine ⟨bars, front, back, heq, fun other member => ?_⟩
    rw [Bool.not_eq_true', ← Bool.not_eq_true, bars_iff]
    exact clear other member

theorem closedDoorAt_eq_none : roster.closedDoorAt cell = none ↔ roster.Free cell := by
  rw [closedDoorAt, List.find?_eq_none]
  exact forall₂_congr fun device _ => not_congr bars_iff

end Roster

/-! ## The player's turn -/

/-- What becomes of the player among the devices of a level on the player's turn, and what is told. -/
inductive Player.Stride (level : Level) (devices : Roster) (player : Player) :
    List Occurrence → Player → Prop where
  | dead (dead : player.alive = false) : Stride level devices player [] player
  | waits (alive : player.alive = true) (last : level.playerPath[player.pathIndex + 1]? = none)
      (away : player.position ≠ level.exit) : Stride level devices player [] player
  | leaves (alive : player.alive = true) (last : level.playerPath[player.pathIndex + 1]? = none)
      (there : player.position = level.exit) :
      Stride level devices player [.exitReached] { player with reachedExit := true }
  | stops {cell door} (alive : player.alive = true)
      (next : level.playerPath[player.pathIndex + 1]? = some cell)
      (bar : devices.FirstBar cell door) :
      Stride level devices player
        (if player.blockedBy = some door.id then [] else [.playerBlocked door.id])
        { player with blockedBy := some door.id }
  | moves {cell} (alive : player.alive = true)
      (next : level.playerPath[player.pathIndex + 1]? = some cell) (free : devices.Free cell)
      (away : cell ≠ level.exit) :
      Stride level devices player []
        { player with position := cell, pathIndex := player.pathIndex + 1, blockedBy := none }
  | arrives {cell} (alive : player.alive = true)
      (next : level.playerPath[player.pathIndex + 1]? = some cell) (free : devices.Free cell)
      (there : cell = level.exit) :
      Stride level devices player [.exitReached]
        { player with
          position := cell, pathIndex := player.pathIndex + 1, blockedBy := none
          reachedExit := true }

theorem Tick.walk_stride {world : World} (level : Level) (inside : world.player.reachedExit = false) :
    world.player.Stride level world.devices (walk level world).2 (walk level world).1.player := by
  by_cases alive : world.player.alive = true
  · simp only [walk, alive, inside, Bool.not_false, Bool.and_self, ite_true]
    split
    · rename_i cell next
      split
      · rename_i door hdoor
        exact .stops alive next (Roster.closedDoorAt_eq_some.mp hdoor)
      · rename_i hdoor
        have free := Roster.closedDoorAt_eq_none.mp hdoor
        simp only [stepTo]
        split
        · rename_i there
          exact .arrives alive next free there
        · rename_i away
          exact .moves alive next free away
    · rename_i last
      split
      · rename_i there
        exact .leaves alive last there
      · rename_i away
        exact .waits alive last away
  · simpa [walk, alive] using .dead (by simpa using alive)

/-! ## Before the player's turn -/

/-- Before the player's turn the player can only die. -/
theorem Deed.player_unmoved {stage : Stage} {world next : World} {occurrences : List Occurrence}
    (deed : Deed stage world occurrences next) (h : stage ≠ .walk) :
    next.player = { world.player with alive := next.player.alive } := by
  cases deed with
  | blocked => exact absurd rfl h
  | moved => exact absurd rfl h
  | exited => exact absurd rfl h
  | _ => rfl

theorem Deeds.player_unmoved {stages : Set Stage} {world last : World}
    {occurrences : List Occurrence} (deeds : Deeds stages world occurrences last)
    (h : .walk ∉ stages) : last.player = { world.player with alive := last.player.alive } := by
  refine deeds.keeps (P := fun next =>
    next.player = { world.player with alive := next.player.alive }) ?_ rfl
  intro stage before told next admitted deed hbefore
  have hnext := deed.player_unmoved (by rintro rfl; exact h admitted)
  rw [hbefore] at hnext
  exact hnext

/-! ## One tick -/

/-- A door is reported to block the player. -/
def Event.IsBlock (door : String) (event : Event) : Prop :=
  event.kind = .playerBlockedByDoor ∧ event.text? "doorId" = some door

theorem Occurrence.isBlock_event {occurrence : Occurrence} {id tick : UInt64} {door : String} :
    (occurrence.event id tick).IsBlock door ↔ occurrence = .playerBlocked door := by
  cases occurrence <;>
    simp [Event.IsBlock, event, kind, facts, Event.text?, Payload.text?, Payload.ofList, Fact.text?]

/-- Where a player of a level can be: on the entry or on the path, and blocked only where a cell
follows. -/
structure Player.Placed (level : Level) (player : Player) : Prop where
  place : player.pathIndex = 0 ∧ player.position = level.entry ∨
    level.playerPath[player.pathIndex]? = some player.position
  ahead : level.playerPath[player.pathIndex + 1]? = none → player.blockedBy = none

/-- A player comes one cell farther on the path. -/
def Player.Advances (before after : Player) : Prop := after.pathIndex = before.pathIndex + 1

/-- How the player gets on in a tick, from what was shown before it to what is shown after it, and what
the tick tells of that. -/
structure Snapshot.Pace (level : Level) (before after : Snapshot) (events : List Event) : Prop where
  index : after.player.pathIndex = before.player.pathIndex ∨ before.player.Advances after.player
  still : ¬before.player.Advances after.player → after.player.position = before.player.position
  free : before.player.Advances after.player →
    after.devices.Free after.player.position ∧ after.player.blockedBy = none
  ended : level.playerPath[after.player.pathIndex + 1]? = none → after.player.blockedBy = none
  halted : after.player.alive = true → ¬before.player.Advances after.player →
    ∀ cell, level.playerPath[after.player.pathIndex + 1]? = some cell →
      ∃ door, after.devices.FirstBar cell door ∧ after.player.blockedBy = some door.id
  blocked_iff : ∀ door, (∃ event ∈ events, event.IsBlock door) ↔
    after.player.alive = true ∧ after.player.blockedBy = some door ∧
      before.player.blockedBy ≠ some door
  out_iff : before.player.reachedExit = false ∧ after.player.reachedExit = true ↔
    after.player.alive = true ∧ after.player.position = level.exit ∧
      (before.player.Advances after.player ∨ level.playerPath[after.player.pathIndex + 1]? = none)
  exit_iff : (∃ event ∈ events, event.kind = .playerReachedExit) ↔
    before.player.reachedExit = false ∧ after.player.reachedExit = true

namespace Player.Stride

variable {level : Level} {devices : Roster} {player next : Player} {told : List Occurrence}

theorem placed (stride : player.Stride level devices told next) (placed : player.Placed level) :
    next.Placed level := by
  cases stride with
  | dead => exact placed
  | waits => exact placed
  | leaves => exact ⟨placed.place, placed.ahead⟩
  | stops _ next => exact ⟨placed.place, fun last => absurd (last.symm.trans next) (by simp)⟩
  | moves _ next => exact ⟨.inr next, fun _ => rfl⟩
  | arrives _ next => exact ⟨.inr next, fun _ => rfl⟩

variable (stride : player.Stride level devices told next)

include stride

theorem index : next.pathIndex = player.pathIndex ∨ player.Advances next := by
  cases stride with
  | moves => exact .inr rfl
  | arrives => exact .inr rfl
  | _ => exact .inl rfl

theorem still (halted : ¬player.Advances next) : next.position = player.position := by
  cases stride with
  | moves => exact absurd rfl halted
  | arrives => exact absurd rfl halted
  | _ => rfl

theorem free (advances : player.Advances next) :
    devices.Free next.position ∧ next.blockedBy = none := by
  cases stride with
  | moves _ _ free => exact ⟨free, rfl⟩
  | arrives _ _ free => exact ⟨free, rfl⟩
  | _ => exact absurd advances (Nat.ne_of_lt (Nat.lt_succ_self _))

theorem ended (placed : player.Placed level) (last : level.playerPath[next.pathIndex + 1]? = none) :
    next.blockedBy = none := by
  cases stride with
  | stops _ cell => exact absurd (last.symm.trans cell) (by simp)
  | moves => rfl
  | arrives => rfl
  | _ => exact placed.ahead last

theorem halted (alive : next.alive = true) (halted : ¬player.Advances next) {cell : Point}
    (ahead : level.playerPath[next.pathIndex + 1]? = some cell) :
    ∃ door, devices.FirstBar cell door ∧ next.blockedBy = some door.id := by
  cases stride with
  | dead dead => exact absurd (dead.symm.trans alive) Bool.false_ne_true
  | waits _ last => exact absurd (last.symm.trans ahead) (by simp)
  | leaves _ last => exact absurd (last.symm.trans ahead) (by simp)
  | stops _ cell' bar =>
      obtain rfl := Option.some.inj (cell'.symm.trans ahead)
      exact ⟨_, bar, rfl⟩
  | moves => exact absurd rfl halted
  | arrives => exact absurd rfl halted

theorem blocked_iff (door : String) : .playerBlocked door ∈ told ↔
    next.alive = true ∧ next.blockedBy = some door ∧ player.blockedBy ≠ some door := by
  cases stride with
  | dead dead => simp [dead]
  | @stops _ other alive =>
      by_cases same : player.blockedBy = some other.id
      · simp only [same, ite_true, List.not_mem_nil, Option.some.injEq, false_iff]
        rintro ⟨-, hdoor, hne⟩
        exact hne (by rw [hdoor])
      · simp only [same, ite_false, List.mem_singleton, Occurrence.playerBlocked.injEq, alive, true_and]
        constructor
        · rintro rfl
          exact ⟨rfl, same⟩
        · exact fun h => (Option.some.inj h.1).symm
  | moves => simp
  | arrives => simp
  | _ => simp +contextual

theorem out_iff (inside : player.reachedExit = false) : next.reachedExit = true ↔
    next.alive = true ∧ next.position = level.exit ∧
      (player.Advances next ∨ level.playerPath[next.pathIndex + 1]? = none) := by
  cases stride with
  | dead dead => simp [dead, inside]
  | waits _ _ away => simp [away, inside]
  | leaves alive last there => simp [alive, last, there]
  | stops _ next => simp [next, inside, Advances]
  | moves _ _ _ away => simp [away, inside]
  | arrives alive _ _ there => simp [alive, there, Advances]

/-- The player's turn makes the pace of the tick. -/
theorem pace {before after : Snapshot} {events : List Event}
    (unmoved : player = { before.player with alive := player.alive })
    (hdevices : devices = after.devices) (hnext : next = after.player)
    (placed : player.Placed level) (inside : player.reachedExit = false)
    (blocks : ∀ door, (∃ event ∈ events, event.IsBlock door) ↔ .playerBlocked door ∈ told)
    (exits : (∃ event ∈ events, event.kind = .playerReachedExit) ↔ after.player.reachedExit = true) :
    before.Pace level after events := by
  subst hdevices hnext
  have hindex : player.pathIndex = before.player.pathIndex := by rw [unmoved]
  have hposition : player.position = before.player.position := by rw [unmoved]
  have hblocked : player.blockedBy = before.player.blockedBy := by rw [unmoved]
  have hinside : before.player.reachedExit = false := by rw [← inside, unmoved]
  have hadvances : before.player.Advances after.player ↔ player.Advances after.player := by
    rw [Advances, Advances, hindex]
  constructor
  · rw [hadvances, ← hindex]
    exact stride.index
  · rw [hadvances, ← hposition]
    exact stride.still
  · rw [hadvances]
    exact stride.free
  · exact stride.ended placed
  · rw [hadvances]
    exact fun alive halted _ => stride.halted alive halted
  · intro door
    rw [blocks, stride.blocked_iff, hblocked]
  · rw [hadvances, stride.out_iff inside, and_iff_right hinside]
  · rw [exits, and_iff_right hinside]

end Player.Stride

namespace Engine

variable {engine : Engine}

theorem devices_stirred : engine.stirred.1.devices = engine.closed.1.devices := by
  rw [world_closed]
  exact (engine.walked_deeds.keeps (P := fun world => world.devices = engine.stirred.1.devices)
    (fun admitted deed h => (deed.devices_eq (.inl admitted)).trans h) rfl).symm

variable (labelled : engine.world.devices.Labelled)

include labelled

/-- The player as the player's own turn finds it. -/
theorem player_stirred :
    engine.stirred.1.player = { engine.world.player with alive := engine.stirred.1.player.alive } := by
  have hstirred := (engine.stirred_deeds labelled).player_unmoved (by simp [Tick.automatic])
  rw [engine.cued_deeds.player_unmoved (by simp [Tick.scripted])] at hstirred
  exact hstirred

theorem blocked_walked (door : String) :
    (∃ event ∈ engine.entries, event.IsBlock door) ↔ .playerBlocked door ∈ engine.walked.2 := by
  have hcued : .playerBlocked door ∉ engine.cued.2 :=
    engine.cued_deeds.not_told (by simp [Occurrence.stage, Tick.scripted])
  have hstirred : .playerBlocked door ∉ engine.stirred.2 :=
    (engine.stirred_deeds labelled).not_told (by simp [Occurrence.stage, Tick.automatic])
  have hclock : .playerBlocked door ∉ (Tick.timeOut engine.mission.limit engine.walked.1).2 :=
    (Tick.timeOut_deeds engine.mission.limit engine.walked.1).not_told (by simp [Occurrence.stage])
  rw [entries, exists_enterFrom_iff fun _ _ => Occurrence.isBlock_event, occurrences_eq]
  simp [hcued, hstirred, hclock]

theorem stride_walked (inside : engine.world.player.reachedExit = false) :
    engine.stirred.1.player.Stride engine.mission.level engine.closed.1.devices engine.walked.2
      engine.closed.1.player := by
  have hinside : engine.stirred.1.player.reachedExit = false := by rw [player_stirred labelled, inside]
  rw [← devices_stirred, world_closed]
  exact Tick.walk_stride engine.mission.level hinside

theorem placed_stirred {level : Level} (placed : engine.world.player.Placed level) :
    engine.stirred.1.player.Placed level := by
  rw [player_stirred labelled]
  exact ⟨placed.place, placed.ahead⟩

theorem pace_scene (alive : engine.world.player.alive = true)
    (inside : engine.world.player.reachedExit = false)
    (placed : engine.world.player.Placed engine.mission.level) {before : Snapshot}
    (hbefore : before.player = engine.world.player) :
    before.Pace engine.mission.level engine.scene.snapshot engine.scene.events := by
  have unmoved := player_stirred labelled
  have hexits : (∃ event ∈ engine.entries, event.kind = .playerReachedExit) ↔
      engine.closed.1.player.reachedExit = true := by
    rw [exists_kind_iff, entries, length_ofKind_enterFrom, (tally_play labelled alive inside).2]
    cases engine.closed.1.player.reachedExit <;> decide
  exact (stride_walked labelled inside).pace (by rw [hbefore, unmoved]) rfl rfl
    (placed_stirred labelled placed) (by rw [unmoved, inside]) (blocked_walked labelled) hexits

end Engine

/-! ## The whole run -/

/-- How a player moves through a run: never off the path, and at its pace from each tick to the next. -/
structure RunResult.PlayerMoves (level : Level) (result : RunResult) : Prop where
  on_path : ∀ frame ∈ result.frames, frame.snapshot.player.pathIndex = 0 ∧
      frame.snapshot.player.position = level.entry ∨
    level.playerPath[frame.snapshot.player.pathIndex]? = some frame.snapshot.player.position
  pace : ∀ (tick : ℕ) (before : Snapshot) (frame : Frame),
    (result.snapshots level)[tick]? = some before → result.frames[tick]? = some frame →
      before.Pace level frame.snapshot frame.events

namespace Mission

variable (mission : Mission)

theorem placed_after {steps : ℕ} (h : steps ≤ mission.duration) :
    (mission.after steps).world.player.Placed mission.level := by
  induction steps with
  | zero => exact ⟨.inl ⟨rfl, rfl⟩, fun _ => rfl⟩
  | succ steps ih =>
      have running := mission.running_of_lt h
      have labelled := mission.labelled_after steps
      have stride := Engine.stride_walked labelled (mission.player_after running).2
      rw [mission_after] at stride
      rw [mission.player_after_succ h]
      exact stride.placed (Engine.placed_stirred labelled (ih (Nat.le_of_succ_le h)))

theorem playerMoves_duration :
    (RunResult.ofEngine (mission.after mission.duration)).PlayerMoves mission.level := by
  constructor
  · intro frame member
    obtain ⟨step, h, rfl⟩ := mission.mem_frames member
    have placed := mission.placed_after h
    rw [mission.player_after_succ h] at placed
    exact placed.place
  · intro step before frame hbefore hframe
    obtain ⟨h, rfl⟩ := mission.getElem?_frames hframe
    obtain ⟨other, hother, hplayer, -⟩ := mission.snapshots_duration h
    obtain rfl := Option.some.inj (hother.symm.trans hbefore)
    obtain ⟨alive, inside⟩ := mission.player_after (mission.running_of_lt h)
    have placed := mission.placed_after (Nat.le_of_lt h)
    have hpace := Engine.pace_scene (mission.labelled_after step) alive inside
      (by rwa [mission_after]) hplayer
    rwa [mission_after] at hpace

end Mission

/-- In every run the player moves along the path, and stops only at closed doors and at its end. -/
theorem simulate_playerMoves (level : Level) (cues : List Script.Cue) (config : Config) :
    (simulate level cues config).PlayerMoves level := by
  rw [RunResult.simulate_eq]
  exact (Mission.of level cues config).playerMoves_duration

end Infiltration
