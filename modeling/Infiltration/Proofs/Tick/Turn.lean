import Infiltration.Proofs.Tick.Escalation
import Infiltration.Proofs.Tick.Persistence

/-! # The turn of a turret

On its turn a working turret lets go, holds its target or fires, and whoever it fires at is hit. The
turns of the others tell nothing of it and leave it as it is. -/

namespace Infiltration

/-! ## Targets -/

/-- What is told of a hit. -/
def Target.hit (turret : String) : Target → Occurrence
  | player => .playerKilled turret
  | drone id => .droneDestroyed id turret

namespace Roster

variable {devices : Roster} {place : Point} {turret : Turret}

/-- A turret that was told to take a drone takes it exactly if it is up and in range. -/
theorem desiredDrone?_eq_some (labelled : devices.Labelled) {id : String} :
    devices.desiredDrone? place turret = some id ↔
      turret.desiredTarget = some id ∧ ∃ device, devices.find? id = some device ∧
        device.upDrone = true ∧ place.distance device.position ≤ turret.range.toNat := by
  unfold desiredDrone?
  cases desired : turret.desiredTarget with
  | none => simp
  | some key =>
      cases found : devices.find? key with
      | none =>
          simp only [Option.bind_some, found, reduceCtorEq, Option.some.injEq, false_iff]
          rintro ⟨rfl, device, hdevice, -⟩
          rw [found] at hdevice
          cases hdevice
      | some device =>
          have hid := labelled key device found
          simp only [Option.bind_some, found, Option.some.injEq, Bool.and_eq_true,
            decide_eq_true_eq, Option.ite_none_right_eq_some]
          constructor
          · rintro ⟨⟨up, near⟩, rfl⟩
            exact ⟨hid.symm, device, by rw [hid, found], up, near⟩
          · rintro ⟨rfl, other, hother, up, near⟩
            obtain rfl := Option.some.inj (found.symm.trans hother)
            exact ⟨⟨up, near⟩, hid⟩

theorem not_up_of_desiredDrone? (labelled : devices.Labelled)
    (none : devices.desiredDrone? place turret = none) {id : String}
    (desired : turret.desiredTarget = some id) {device : Device}
    (found : devices.find? id = some device)
    (near : place.distance device.position ≤ turret.range.toNat) : device.upDrone = false := by
  by_contra h
  have up : device.upDrone = true := by simpa using h
  have hsome := (desiredDrone?_eq_some labelled).mpr ⟨desired, device, found, up, near⟩
  rw [none] at hsome
  cases hsome

end Roster

namespace World

variable {world : World} {place : Point} {turret : Turret}

theorem target?_eq_player : world.target? place turret = some .player ↔
    world.devices.desiredDrone? place turret = none ∧ world.player.inRange place turret = true := by
  unfold target?
  cases world.devices.desiredDrone? place turret <;> simp

theorem target?_eq_drone {id : String} : world.target? place turret = some (.drone id) ↔
    world.devices.desiredDrone? place turret = some id := by
  unfold target?
  cases world.devices.desiredDrone? place turret <;> simp

/-- What the turret under a key takes as its target: nothing if it may not engage. -/
def aim? (world : World) (key : String) : Option Target :=
  match world.devices.find? key with
  | some device =>
    device.turret?.bind fun turret =>
      if device.enabled && turret.active (world.alarmLevel = .red) then
        world.target? device.position turret
      else none
  | none => none

/-- A target that is taken stands for a working turret that may engage. -/
theorem aim?_eq_some {key : String} {target : Target} : world.aim? key = some target ↔
    ∃ device turret, world.devices.find? key = some device ∧ device.turret? = some turret ∧
      device.enabled = true ∧ turret.active (world.alarmLevel = .red) = true ∧
        world.target? device.position turret = some target := by
  unfold aim?
  cases found : world.devices.find? key with
  | none => simp
  | some device =>
      simp only [Option.bind_eq_some_iff, Option.ite_none_right_eq_some, Bool.and_eq_true,
        Option.some.injEq]
      constructor
      · rintro ⟨turret, kind, ⟨on, armed⟩, aim⟩
        exact ⟨device, turret, rfl, kind, on, armed, aim⟩
      · rintro ⟨_, turret, rfl, kind, on, armed, aim⟩
        exact ⟨turret, kind, ⟨on, armed⟩, aim⟩

/-! ## Shots -/

/-- A shot leaves every turret alone. -/
theorem part?_shoot (world : World) (turret : String) (target : Target) (key : String) :
    (world.shoot turret target).1.devices.part? key Device.turret? =
      world.devices.part? key Device.turret? := by
  cases target with
  | player =>
      simp only [shoot]
      split <;> rfl
  | drone id =>
      simp only [shoot]
      split
      · rename_i drone hpart
        obtain ⟨device, found, kind⟩ := Roster.part?_eq_some.mp hpart
        rw [Device.drone?_eq_some] at kind
        split
        · rw [devices_modifyDevice, Roster.part?, Roster.part?]
          by_cases hkey : key = id
          · subst hkey
            simp [Roster.find?_modify_self, found, Device.turret?, kind]
          · rw [Roster.find?_modify_of_ne _ hkey]
        · rfl
      · rfl

theorem part?_setEquipment_self {key : String} {device : Device}
    (found : world.devices.find? key = some device) (turret : Turret) :
    (world.setEquipment key (.turret turret)).devices.part? key Device.turret? = some turret := by
  rw [setEquipment, devices_modifyDevice, Roster.part?, Roster.find?_modify_self, found]
  rfl

theorem part?_setEquipment_of_ne {key other : String} (h : key ≠ other) (equipment : Equipment) :
    (world.setEquipment other equipment).devices.part? key Device.turret? =
      world.devices.part? key Device.turret? := by
  rw [setEquipment, devices_modifyDevice, Roster.part?, Roster.find?_modify_of_ne _ h, Roster.part?]

/-- Who is taken as a target is hit: nothing comes between taking and shooting but the turret itself,
and no turret is a drone. -/
theorem shoot_hits (labelled : world.devices.Labelled) {key : String} {device : Device}
    (found : world.devices.find? key = some device) {old : Turret}
    (kind : device.equipment = .turret old) {target : Target}
    (aim : world.target? place turret = some target) (new : Turret) :
    ((world.setEquipment key (.turret new)).shoot key target).2 = [target.hit key] := by
  cases target with
  | player =>
      obtain ⟨-, near⟩ := target?_eq_player.mp aim
      rw [Player.inRange, Bool.and_eq_true] at near
      simp [shoot, setEquipment, near.1, Target.hit]
  | drone id =>
      rw [target?_eq_drone, Roster.desiredDrone?_eq_some labelled] at aim
      obtain ⟨-, drone, hdrone, up, -⟩ := aim
      obtain ⟨-, part, hpart, alive⟩ := Device.upDrone_eq_true.mp up
      have hne : id ≠ key := by
        rintro rfl
        obtain rfl := Option.some.inj (found.symm.trans hdrone)
        cases kind.symm.trans hpart
      have hshot : (world.setEquipment key (.turret new)).devices.part? id Device.drone? =
          some part := by
        rw [setEquipment, devices_modifyDevice, Roster.part?, Roster.find?_modify_of_ne _ hne, hdrone]
        exact Device.drone?_eq_some.mpr hpart
      simp [shoot, hshot, alive, Target.hit]

end World

/-! ## One turn -/

/-- What its turn makes of a turret that is switched on or off and takes a target or none, and what
the turn tells. -/
inductive Turret.Turn (key : String) (turret : Turret) :
    Bool → Option Target → List Occurrence → Turret → Prop where
  | off : Turn key turret false none [] turret
  | idle : Turn key turret true none [] turret.release
  | held {target : Target} (early : (turret.track target.id).lockTicks < turret.lockDelay) :
      Turn key turret true (some target) (turret.announceLock key target.id)
        (turret.track target.id)
  | fired {target : Target} (ready : turret.lockDelay ≤ (turret.track target.id).lockTicks) :
      Turn key turret true (some target)
        (turret.announceLock key target.id ++ [.turretFired key target.id, target.hit key])
        { turret.track target.id with lockTicks := 0 }

/-- Beyond a lock a turn tells of a shot and its hit, and only if the target has been held long
enough. -/
theorem Turret.Turn.fires {key : String} {turret next : Turret} {on : Bool} {aim : Option Target}
    {told : List Occurrence} (turn : turret.Turn key on aim told next) {occurrence : Occurrence}
    (member : occurrence ∈ told) (h : occurrence.kind ≠ .turretTargetLock) :
    ∃ target, aim = some target ∧ turret.lockDelay ≤ (turret.track target.id).lockTicks ∧
      told = turret.announceLock key target.id ++ [.turretFired key target.id, target.hit key] ∧
        (occurrence = .turretFired key target.id ∨ occurrence = target.hit key) := by
  have unlocked (target : String) : occurrence ∉ turret.announceLock key target := by
    unfold announceLock
    split
    · simp
    · rintro hlock
      obtain rfl := List.mem_singleton.mp hlock
      exact h rfl
  cases turn with
  | off => simp at member
  | idle => simp at member
  | held => exact absurd member (unlocked _)
  | @fired target ready =>
      refine ⟨target, rfl, ready, rfl, ?_⟩
      simpa using (List.mem_append.mp member).resolve_left (unlocked _)

namespace Tick

variable {world : World} {key : String} {device : Device} {turret : Turret}

theorem engage_turn (labelled : world.devices.Labelled)
    (found : world.devices.find? key = some device) (kind : device.equipment = .turret turret)
    {target : Target} (aim : world.target? device.position turret = some target) :
    ∃ next, turret.Turn key true (some target) (engage key turret target world).2 next ∧
      (engage key turret target world).1.devices.part? key Device.turret? = some next := by
  by_cases early : (turret.track target.id).lockTicks < turret.lockDelay
  · refine ⟨turret.track target.id, ?_, ?_⟩
    · simpa [engage, early] using Turret.Turn.held early
    · simpa [engage, early] using World.part?_setEquipment_self found (turret.track target.id)
  · refine ⟨{ turret.track target.id with lockTicks := 0 }, ?_, ?_⟩
    · simp only [engage, early, ite_false, World.shoot_hits labelled found kind aim]
      exact .fired (UInt32.not_lt.mp early)
    · simp only [engage, early, ite_false, World.part?_shoot]
      exact World.part?_setEquipment_self found _

theorem turretTurn_turn (labelled : world.devices.Labelled)
    (found : world.devices.find? key = some device) (kind : device.equipment = .turret turret) :
    ∃ next, turret.Turn key device.enabled (world.aim? key)
        (turretTurn (world.alarmLevel = .red) key world).2 next ∧
      (turretTurn (world.alarmLevel = .red) key world).1.devices.part? key Device.turret? =
        some next := by
  have hview := Device.turret?_eq_some.mpr kind
  cases on : device.enabled with
  | false =>
      have haim : world.aim? key = none := by simp [World.aim?, found, hview, on]
      have hturn : turretTurn (world.alarmLevel = .red) key world = (world, []) := by
        simp [turretTurn, found, on]
      rw [haim, hturn]
      exact ⟨turret, .off, Roster.part?_eq_some.mpr ⟨device, found, hview⟩⟩
  | true =>
      have haim : world.aim? key =
          if turret.active (world.alarmLevel = .red) then world.target? device.position turret
          else none := by
        simp [World.aim?, found, hview, on]
      cases aim : world.aim? key with
      | none =>
          rw [aim] at haim
          simp only [turretTurn, found, on, hview, ← haim]
          exact ⟨turret.release, .idle, World.part?_setEquipment_self found turret.release⟩
      | some target =>
          rw [aim] at haim
          simp only [turretTurn, found, on, hview, ← haim]
          exact engage_turn labelled found kind (Option.ite_none_right_eq_some.mp haim.symm).2

/-! ## The turns of others -/

/-- A turn tells of its own turret only. -/
theorem turretTurn_shooter (alarmRed : Bool) (key : String) (world : World) :
    ∀ occurrence ∈ (turretTurn alarmRed key world).2, occurrence.shooter? = some key := by
  intro occurrence member
  unfold turretTurn at member
  split at member
  · split at member
    · rename_i turret _ _
      generalize (if turret.active alarmRed then _ else none) = aim at member
      cases aim with
      | none => simp at member
      | some target => exact engage_told key turret target world occurrence member
    · simp at member
  · simp at member

theorem part?_turretTurn_of_ne {other : String} (h : key ≠ other) (alarmRed : Bool) (world : World) :
    (turretTurn alarmRed other world).1.devices.part? key Device.turret? =
      world.devices.part? key Device.turret? := by
  unfold turretTurn
  split
  · split
    · simp only [engage]
      split
      · split
        · exact World.part?_setEquipment_of_ne h _
        · rw [World.part?_shoot]
          exact World.part?_setEquipment_of_ne h _
      · exact World.part?_setEquipment_of_ne h _
    · rfl
  · rfl

/-- What turns tell is told of their turrets. -/
theorem turns_shooter (alarmRed : Bool) (keys : List String) (world : World) :
    ∀ occurrence ∈ (turns alarmRed keys world).2, ∃ key ∈ keys, occurrence.shooter? = some key := by
  refine inOrder_told (P := fun _ => True) (fun _ _ _ _ => trivial) ?_ trivial
  intro phase member world _ occurrence told
  obtain ⟨key, hkey, rfl⟩ := List.mem_map.mp member
  exact ⟨key, hkey, turretTurn_shooter alarmRed key world occurrence told⟩

theorem part?_turns {keys : List String} (absent : key ∉ keys) (alarmRed : Bool) (world : World) :
    (turns alarmRed keys world).1.devices.part? key Device.turret? =
      world.devices.part? key Device.turret? := by
  let same (next : World) : Prop :=
    next.devices.part? key Device.turret? = world.devices.part? key Device.turret?
  have kept : ∀ phase ∈ keys.map (turretTurn alarmRed), ∀ next, same next → same (phase next).1 := by
    intro phase member next h
    obtain ⟨other, hother, rfl⟩ := List.mem_map.mp member
    have hne : key ≠ other := by
      rintro rfl
      exact absent hother
    exact (part?_turretTurn_of_ne hne alarmRed next).trans h
  exact inOrder_keeps kept rfl

end Tick

/-! ## From one turn to the next -/

theorem Occurrence.shooter?_eq_none {occurrence : Occurrence} (h : occurrence.stage ≠ .turrets) :
    occurrence.shooter? = none := by
  cases occurrence <;> simp_all [stage, shooter?]

/-- No turret acts but on a turn. -/
theorem Deeds.shooter?_eq_none {stages : Set Stage} {world last : World}
    {occurrences : List Occurrence} (deeds : Deeds stages world occurrences last)
    (h : .turrets ∉ stages) : ∀ occurrence ∈ occurrences, occurrence.shooter? = none :=
  fun occurrence member => occurrence.shooter?_eq_none (deeds.stage_ne h occurrence member)

/-- The turret that has locked or fired, or that a script line has given a new target. -/
def Occurrence.mark? : Occurrence → Option String
  | turretRetargeted _ turret _ => some turret
  | targetLocked turret _ => some turret
  | turretFired turret _ => some turret
  | _ => none

namespace Occurrence

variable {occurrence : Occurrence}

theorem mark?_of_shooter? {turret other : String} (shooter : occurrence.shooter? = some turret)
    (mark : occurrence.mark? = some other) : turret = other := by
  cases occurrence <;> simp_all [shooter?, mark?]

theorem mark?_eq_none (peaceful : occurrence.shooter? = none) (lineless : occurrence.line? = none) :
    occurrence.mark? = none := by
  cases occurrence <;> simp_all [shooter?, line?, mark?]

end Occurrence

/-- Until its turn comes a turret keeps its hold, and nothing marks it, unless an order has made it let
go. -/
inductive Turret.Awaits (key : String) (turret : Turret) (told : List Occurrence) (ready : Turret) :
    Prop where
  | kept (current : ready.currentTarget = turret.currentTarget)
      (ticks : ready.lockTicks = turret.lockTicks)
      (unmarked : ∀ occurrence ∈ told, occurrence.mark? ≠ some key)
  | lost (current : ready.currentTarget = none) (ticks : ready.lockTicks = 0)

theorem Turret.Awaits.trans {key : String} {turret middle ready : Turret}
    {front back : List Occurrence} (first : turret.Awaits key front middle)
    (second : middle.Awaits key back ready) : turret.Awaits key (front ++ back) ready := by
  cases second with
  | lost current ticks => exact .lost current ticks
  | kept current ticks unmarked =>
      cases first with
      | lost current' ticks' => exact .lost (current.trans current') (ticks.trans ticks')
      | kept current' ticks' unmarked' =>
          refine .kept (current.trans current') (ticks.trans ticks') ?_
          intro occurrence member
          rcases List.mem_append.mp member with member | member
          · exact unmarked' occurrence member
          · exact unmarked occurrence member

theorem Device.turret?_patrol (device : Device) : device.patrol.turret? = device.turret? :=
  shown_patrol (fun kind _ => by simp [turret?, kind]) device

theorem Device.Deed.awaits {world : World} {key : String} {stage : Stage}
    {device device' : Device} {occurrences : List Occurrence}
    (deed : Deed world key stage device occurrences device') (h : stage ≠ .turrets)
    {turret : Turret} (kind : device.turret? = some turret) :
    ∃ ready, device'.turret? = some ready ∧ turret.Awaits key occurrences ready := by
  rw [Device.turret?_eq_some] at kind
  cases deed with
  | retargeted line target kind' =>
      obtain rfl := Equipment.turret.inj (kind.symm.trans kind')
      exact ⟨turret.retarget target, rfl, .lost rfl rfl⟩
  | tagged => exact ⟨turret, Device.turret?_eq_some.mpr kind, .kept rfl rfl (by simp [Occurrence.mark?])⟩
  | patrolled =>
      rw [device.turret?_patrol]
      exact ⟨turret, Device.turret?_eq_some.mpr kind, .kept rfl rfl (by simp)⟩
  | _ => simp_all

/-- A deed on one device marks no other. -/
theorem Device.Deed.mark?_eq {world : World} {key : String} {stage : Stage}
    {device device' : Device} {occurrences : List Occurrence}
    (deed : Deed world key stage device occurrences device') (h : stage ≠ .turrets) :
    ∀ occurrence ∈ occurrences, ∀ turret, occurrence.mark? = some turret → turret = key := by
  cases deed <;> simp_all [Occurrence.mark?]

theorem Deed.awaits {stage : Stage} {world next : World} {occurrences : List Occurrence}
    (deed : Deed stage world occurrences next) (h : stage ≠ .turrets) {key : String}
    {turret : Turret} (present : world.devices.part? key Device.turret? = some turret) :
    ∃ ready, next.devices.part? key Device.turret? = some ready ∧
      turret.Awaits key occurrences ready := by
  obtain ⟨device, found, kind⟩ := Roster.part?_eq_some.mp present
  have hset {other alarm alarm'} (first : world.devices.alarmEntry? = some (other, alarm)) :
      (world.setEquipment other (.alarm alarm')).devices.part? key Device.turret? = some turret := by
    have hne : key ≠ other := by
      rintro rfl
      obtain ⟨device', found', kind'⟩ := Roster.alarmEntry?_eq_some first
      obtain rfl := Option.some.inj (found.symm.trans found')
      simp [Device.turret?, kind'] at kind
    rw [World.part?_setEquipment_of_ne hne, present]
  have idle (unmarked : ∀ occurrence ∈ occurrences, occurrence.mark? ≠ some key) :
      turret.Awaits key occurrences turret := .kept rfl rfl unmarked
  cases deed with
  | @device _ _ other device' changed _ found' deed =>
      rw [World.devices_modifyDevice, Roster.part?]
      by_cases hkey : key = other
      · subst hkey
        obtain rfl := Option.some.inj (found.symm.trans found')
        rw [Roster.find?_modify_self, found]
        exact deed.awaits h kind
      · rw [Roster.find?_modify_of_ne _ hkey]
        exact ⟨turret, present, idle fun occurrence member mark =>
          hkey (deed.mark?_eq h occurrence member key mark)⟩
  | delayed _ _ first => exact ⟨turret, hset first, idle (by simp [Occurrence.mark?])⟩
  | alerted first => exact ⟨turret, hset first, idle (by simp [Occurrence.mark?])⟩
  | reddened first => exact ⟨turret, hset first, idle (by simp [Occurrence.mark?])⟩
  | killed => exact absurd rfl h
  | blocked => exact ⟨turret, present, idle (by split <;> simp [Occurrence.mark?])⟩
  | _ => exact ⟨turret, present, idle (by simp [Occurrence.mark?])⟩

theorem Deeds.awaits {stages : Set Stage} {world last : World} {occurrences : List Occurrence}
    (deeds : Deeds stages world occurrences last) (h : .turrets ∉ stages) {key : String}
    {turret : Turret} (present : world.devices.part? key Device.turret? = some turret) :
    ∃ ready, last.devices.part? key Device.turret? = some ready ∧
      turret.Awaits key occurrences ready := by
  induction deeds generalizing turret with
  | nil => exact ⟨turret, present, .kept rfl rfl (by simp)⟩
  | cons admitted deed _ ih =>
      obtain ⟨middle, hmiddle, first⟩ := deed.awaits (by rintro rfl; exact h admitted) present
      obtain ⟨ready, hready, second⟩ := ih hmiddle
      exact ⟨ready, hready, first.trans second⟩

end Infiltration
