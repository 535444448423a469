import Infiltration.Proofs.Run.Parts
import Infiltration.Proofs.Tick.Turn
import Mathlib.Data.List.TakeWhile

/-! # A tick as one turret goes through it

Until its turn comes a turret at most loses its hold to an order; then it has its turn; and what comes
after neither marks it nor changes its hold. -/

namespace Infiltration

attribute [local irreducible] Mission.opening Mission.closing

/-- A list is what comes before the first place of a member, the member, and what comes after. -/
private theorem takeWhile_append_cons_tail {key : String} {keys : List String} (present : key ∈ keys) :
    keys.takeWhile (· ≠ key) ++ key :: (keys.dropWhile (· ≠ key)).tail = keys := by
  induction keys with
  | nil => simp at present
  | cons other rest ih =>
      by_cases hkey : other = key
      · simp [hkey]
      · have hrest : key ∈ rest := (List.mem_cons.mp present).resolve_left (Ne.symm hkey)
        simpa [hkey] using ih hrest

namespace Engine

variable (engine : Engine) (key : String)

/-- Whether the turrets act under a red alarm. -/
def red : Bool := engine.escalated.1.alarmLevel = .red

/-- The keys that have their turns before a key. -/
def forerunners : List String := engine.escalated.1.devices.keys.takeWhile (· ≠ key)

/-- The keys that have their turns after a key. -/
def successors : List String := (engine.escalated.1.devices.keys.dropWhile (· ≠ key)).tail

/-- The world when the turn of a key comes. -/
def faced : World := (Tick.turns engine.red (engine.forerunners key) engine.escalated.1).1

/-- What a tick has told when the turn of a key comes. -/
def foretold : List Occurrence :=
  (engine.opened.2 ++ engine.sighted) ++ engine.escalated.2 ++
    (Tick.turns engine.red (engine.forerunners key) engine.escalated.1).2

/-- What the turret under a key takes as its target in the tick. -/
def aim? : Option Target := (engine.faced key).aim? key

/-- The turn of a key. -/
def served : World × List Occurrence := Tick.turretTurn engine.red key (engine.faced key)

/-- What a tick tells after the turn of a key. -/
def aftermath : List Occurrence :=
  (Tick.turns engine.red (engine.successors key) (engine.served key).1).2 ++ engine.departed.2

variable {engine key}

/-! ## Before the turn -/

theorem turns_faced :
    Deeds {.turrets} engine.escalated.1
      (Tick.turns engine.red (engine.forerunners key) engine.escalated.1).2 (engine.faced key) :=
  Tick.turns_deeds _ rfl

theorem red_eq_faced : engine.red = decide ((engine.faced key).alarmLevel = .red) := by
  rw [Tick.alarmLevel_of_turrets turns_faced, red]

theorem unengaged_deeds (labelled : engine.world.devices.Labelled) :
    Deeds {stage | stage ≠ .turrets} engine.world
      ((engine.opened.2 ++ engine.sighted) ++ engine.escalated.2) engine.escalated.1 :=
  ((early_deeds labelled).mono fun _ early => early.2.1).trans
    ((escalated_deeds labelled).mono (by simp))

theorem foretold_deeds (labelled : engine.world.devices.Labelled) :
    Deeds Set.univ engine.world (engine.foretold key) (engine.faced key) :=
  ((unengaged_deeds labelled).mono (Set.subset_univ _)).trans
    (turns_faced.mono (Set.subset_univ _))

theorem labelled_faced (labelled : engine.world.devices.Labelled) :
    (engine.faced key).devices.Labelled :=
  (foretold_deeds labelled).labelled labelled

theorem not_mem_forerunners : key ∉ engine.forerunners key := by
  intro member
  simpa using List.mem_takeWhile_imp member

/-- A turret awaits its turn. -/
theorem awaits_faced (labelled : engine.world.devices.Labelled) {turret : Turret}
    (present : engine.world.devices.part? key Device.turret? = some turret) :
    ∃ ready, (engine.faced key).devices.part? key Device.turret? = some ready ∧
      turret.Awaits key (engine.foretold key) ready := by
  obtain ⟨ready, hready, hawaits⟩ := (unengaged_deeds labelled).awaits (by simp) present
  refine ⟨ready, (Tick.part?_turns not_mem_forerunners _ _).trans hready, ?_⟩
  have idle : ready.Awaits key
      (Tick.turns engine.red (engine.forerunners key) engine.escalated.1).2 ready := by
    refine .kept rfl rfl ?_
    intro occurrence member mark
    obtain ⟨other, hother, shooter⟩ := Tick.turns_shooter _ _ _ occurrence member
    obtain rfl := Occurrence.mark?_of_shooter? shooter mark
    exact not_mem_forerunners hother
  exact hawaits.trans idle

/-- Before the turn nothing is told of the turret. -/
theorem foretold_apart (labelled : engine.world.devices.Labelled) :
    ∀ occurrence ∈ engine.foretold key, occurrence.shooter? ≠ some key := by
  intro occurrence member
  rcases List.mem_append.mp member with member | member
  · simp [(unengaged_deeds labelled).shooter?_eq_none (by simp) occurrence member]
  · obtain ⟨other, hother, shooter⟩ := Tick.turns_shooter _ _ _ occurrence member
    rw [shooter]
    rintro ⟨rfl⟩
    exact not_mem_forerunners hother

/-! ## After the turn -/

theorem served_deeds :
    Deeds {.turrets} (engine.faced key) (engine.served key).2 (engine.served key).1 :=
  Tick.turretTurn_deeds key red_eq_faced

theorem turns_served :
    Deeds {.turrets} (engine.served key).1
      (Tick.turns engine.red (engine.successors key) (engine.served key).1).2
      (Tick.turns engine.red (engine.successors key) (engine.served key).1).1 := by
  apply Tick.turns_deeds
  rw [Tick.alarmLevel_of_turrets served_deeds, red_eq_faced]

section Present

variable (labelled : engine.world.devices.Labelled) (present : key ∈ engine.world.devices.keys)

include labelled present

theorem keys_eq : engine.escalated.1.devices.keys =
    engine.forerunners key ++ key :: engine.successors key := by
  rw [← (unengaged_deeds labelled).keys_eq] at present
  rw [forerunners, successors, takeWhile_append_cons_tail present]

theorem not_mem_successors : key ∉ engine.successors key := by
  have distinct : engine.escalated.1.devices.keys.Nodup := engine.escalated.1.devices.nodup
  rw [keys_eq labelled present, List.nodup_append, List.nodup_cons] at distinct
  exact distinct.2.1.1

theorem engaged_eq : engine.engaged =
    ((Tick.turns engine.red (engine.successors key) (engine.served key).1).1,
      (Tick.turns engine.red (engine.forerunners key) engine.escalated.1).2 ++
        ((engine.served key).2 ++
          (Tick.turns engine.red (engine.successors key) (engine.served key).1).2)) := by
  simp only [engaged, Tick.runTurrets, keys_eq labelled present, List.map_append, List.map_cons,
    Tick.inOrder_append, Tick.Phase.andThen, Tick.inOrder_cons]
  rfl

theorem occurrences_served :
    engine.occurrences = engine.foretold key ++ (engine.served key).2 ++ engine.aftermath key := by
  rw [occurrences_departed, engaged_eq labelled present, foretold, aftermath]
  simp only [List.append_assoc]

theorem aftermath_deeds :
    Deeds {.turrets, .walk, .clock} (engine.served key).1 (engine.aftermath key)
      engine.closed.1 := by
  have hlate : Deeds Stage.late engine.engaged.1 engine.departed.2 engine.departed.1 := late_deeds
  rw [engaged_eq labelled present] at hlate
  rw [world_departed]
  exact (turns_served.mono (by simp)).trans (hlate.mono (by simp [Stage.late]))

theorem closed_part?_eq :
    engine.closed.1.devices.part? key Device.turret? =
      (engine.served key).1.devices.part? key Device.turret? := by
  have hdevices : engine.closed.1.devices = engine.engaged.1.devices := by
    rw [world_departed]
    exact late_deeds.keeps (P := fun world => world.devices = engine.engaged.1.devices)
      (fun admitted deed h => (deed.devices_eq admitted).trans h) rfl
  rw [hdevices, engaged_eq labelled present]
  exact Tick.part?_turns (not_mem_successors labelled present) _ _

/-- What a tick tells after the turn is neither told of the turret nor marks it. -/
theorem aftermath_apart : ∀ occurrence ∈ engine.aftermath key,
    occurrence.shooter? ≠ some key ∧ occurrence.mark? ≠ some key := by
  intro occurrence member
  rcases List.mem_append.mp member with member | member
  · obtain ⟨other, hother, shooter⟩ := Tick.turns_shooter _ _ _ occurrence member
    have hne : other ≠ key := by
      rintro rfl
      exact not_mem_successors labelled present hother
    exact ⟨by simpa [shooter] using hne,
      fun mark => hne (Occurrence.mark?_of_shooter? shooter mark)⟩
  · have peaceful := late_deeds.shooter?_eq_none (by simp [Stage.late]) occurrence member
    obtain ⟨stage, hstage, hline⟩ := late_deeds.line?_eq occurrence member
    have lineless : occurrence.line? = none := by
      rcases hstage with rfl | rfl <;> exact hline
    simp [peaceful, Occurrence.mark?_eq_none peaceful lineless]

end Present

/-! ## The whole tick -/

/-- How a tick goes for the turret under a key, which is switched on or off: it awaits its turn, has
it, and stays as the turn leaves it. -/
structure Stint (engine : Engine) (key : String) (on : Bool) (turret ready next : Turret) : Prop where
  awaits : turret.Awaits key (engine.foretold key) ready
  make_eq : ready.make = turret.make
  turn : ready.Turn key on (engine.aim? key) (engine.served key).2 next
  closed : engine.closed.1.devices.part? key Device.turret? = some next

theorem mem_keys {device : Device} (found : engine.world.devices.find? key = some device) :
    key ∈ engine.world.devices.keys := by
  by_contra absent
  rw [← Roster.find?_eq_none_iff, found] at absent
  cases absent

theorem exists_stint (labelled : engine.world.devices.Labelled) {device : Device} {turret : Turret}
    (found : engine.world.devices.find? key = some device) (kind : device.turret? = some turret) :
    ∃ ready next, engine.Stint key device.enabled turret ready next := by
  obtain ⟨ready, hready, awaits⟩ :=
    awaits_faced labelled (Roster.part?_eq_some.mpr ⟨device, found, kind⟩)
  obtain ⟨device', found', kind'⟩ := Roster.part?_eq_some.mp hready
  have before : Deeds Set.univ engine.world (engine.foretold key) (engine.faced key) :=
    foretold_deeds labelled
  have hmakes := before.emplacements_eq
  obtain ⟨other, ready', hother, hready', hon, hmake⟩ :=
    Roster.emplaced_of_view_eq hmakes.symm found kind
  obtain rfl := Option.some.inj (found'.symm.trans hother)
  obtain rfl := Option.some.inj (kind'.symm.trans hready')
  obtain ⟨next, turn, hnext⟩ :=
    Tick.turretTurn_turn (labelled_faced labelled) found' (Device.turret?_eq_some.mp kind')
  rw [← red_eq_faced] at turn hnext
  rw [hon] at turn
  exact ⟨ready, next, awaits, hmake, turn,
    (closed_part?_eq labelled (mem_keys found)).trans hnext⟩

/-- What a tick tells of a turret it tells on the turret's turn. -/
theorem stint_of_shooter (labelled : engine.world.devices.Labelled) {occurrence : Occurrence}
    (member : occurrence ∈ engine.occurrences) (shooter : occurrence.shooter? = some key) :
    ∃ device turret ready next, engine.world.devices.find? key = some device ∧
      device.turret? = some turret ∧ engine.Stint key device.enabled turret ready next ∧
        occurrence ∈ (engine.served key).2 := by
  have hacted : occurrence ∈ engine.engaged.2 := by
    rw [occurrences_departed] at member
    rcases List.mem_append.mp member with member | member
    · rcases List.mem_append.mp member with member | member
      · rw [(unengaged_deeds labelled).shooter?_eq_none (by simp) occurrence member] at shooter
        cases shooter
      · exact member
    · rw [late_deeds.shooter?_eq_none (by simp [Stage.late]) occurrence member] at shooter
      cases shooter
  obtain ⟨other, trigger, hother, hpart, -⟩ := Tick.runTurrets_told _ occurrence hacted
  obtain rfl := Option.some.inj (shooter.symm.trans hother)
  have htriggers := (unengaged_deeds labelled).triggers_eq
  rw [Roster.part?_of_view_eq htriggers] at hpart
  obtain ⟨device, found, htrigger⟩ := Roster.part?_eq_some.mp hpart
  obtain ⟨turret, kind, -⟩ := Option.map_eq_some_iff.mp htrigger
  obtain ⟨ready, next, stint⟩ := exists_stint labelled found kind
  refine ⟨device, turret, ready, next, found, kind, stint, ?_⟩
  rw [occurrences_served labelled (mem_keys found)] at member
  rcases List.mem_append.mp member with member | member
  · rcases List.mem_append.mp member with member | member
    · exact absurd shooter (foretold_apart labelled occurrence member)
    · exact member
  · exact absurd shooter (aftermath_apart labelled (mem_keys found) occurrence member).1

end Engine

/-! ## The turrets of a run -/

namespace Mission

variable (mission : Mission)

/-- No turret is rebuilt, moved or switched. -/
theorem emplacements_after (steps : ℕ) :
    (mission.after steps).world.devices.view Device.emplacement? =
      (World.start mission.level).devices.view Device.emplacement? := by
  apply mission.after_induction
    (P := fun engine => engine.world.devices.view Device.emplacement? = _) rfl
  intro engine labelled h _
  rw [devices_play, (Engine.play_deeds labelled).emplacements_eq, h]

/-- What holds of a turret as the level has it, and outlasts each of its ticks, holds of it in every
step of a run. -/
theorem stint_induction {key : String} {P : ℕ → Bool → Turret → Prop}
    (start : ∀ device ∈ mission.level.devices, ∀ turret, device.turret? = some turret →
      P 0 device.enabled turret)
    (step : ∀ steps < mission.duration, ∀ device turret ready next,
      (mission.after steps).world.devices.find? key = some device → device.turret? = some turret →
        (mission.after steps).Stint key device.enabled turret ready next →
          P steps device.enabled turret → P (steps + 1) device.enabled next)
    {steps : ℕ} (h : steps ≤ mission.duration) {device : Device} {turret : Turret}
    (found : (mission.after steps).world.devices.find? key = some device)
    (kind : device.turret? = some turret) : P steps device.enabled turret := by
  induction steps generalizing device turret with
  | zero =>
      obtain ⟨member, -⟩ := Roster.mem_of_find?_ofDevices found
      exact start device member turret kind
  | succ steps ih =>
      have labelled := mission.labelled_after steps
      rw [mission.devices_after_succ h] at found
      obtain ⟨before, turret', hbefore, kind', hon, -⟩ := Roster.emplaced_of_view_eq
        (Engine.play_deeds labelled).emplacements_eq found kind
      obtain ⟨ready, next, stint⟩ := Engine.exists_stint labelled hbefore kind'
      obtain rfl : next = turret := by
        have hpart := Roster.part?_eq_some.mpr ⟨device, found, kind⟩
        exact Option.some.inj (stint.closed.symm.trans hpart)
      rw [← hon]
      exact step steps h before turret' ready next hbefore kind' stint
        (ih (Nat.le_of_succ_le h) hbefore kind')

end Mission

end Infiltration
