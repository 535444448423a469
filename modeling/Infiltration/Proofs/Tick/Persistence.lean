import Infiltration.Proofs.Tick.Series

/-! # What lasts

Each stage of a tick leaves most of the world alone: only turrets and the player's own steps change
the player, only a script line gives a turret orders, only a patrol moves a device. Some things last
in every stage: what a turret is built like, and the end of a drone. -/

namespace Infiltration

/-! ## The player and the alarm -/

namespace Deed

variable {stage : Stage} {world next : World} {occurrences : List Occurrence}

theorem player_eq (deed : Deed stage world occurrences next) (still : stage ≠ .turrets)
    (halted : stage ≠ .walk) : next.player = world.player := by
  cases deed with
  | killed => exact absurd rfl still
  | blocked => exact absurd rfl halted
  | moved => exact absurd rfl halted
  | exited => exact absurd rfl halted
  | _ => rfl

/-- Nothing happens to the dead. -/
theorem player_of_dead (deed : Deed stage world occurrences next)
    (dead : world.player.alive = false) : next.player = world.player := by
  cases deed with
  | killed _ alive => exact absurd (dead.symm.trans alive) Bool.false_ne_true
  | blocked _ alive => exact absurd (dead.symm.trans alive) Bool.false_ne_true
  | moved _ alive => exact absurd (dead.symm.trans alive) Bool.false_ne_true
  | exited alive => exact absurd (dead.symm.trans alive) Bool.false_ne_true
  | _ => rfl

theorem position_eq (deed : Deed stage world occurrences next) (halted : stage ≠ .walk) :
    next.player.position = world.player.position := by
  cases deed with
  | moved => exact absurd rfl halted
  | _ => rfl

/-- The player's steps and the clock change no device. -/
theorem devices_eq (deed : Deed stage world occurrences next)
    (late : stage = .walk ∨ stage = .clock) : next.devices = world.devices := by
  cases deed with
  | device _ deed => cases deed <;> simp at late
  | delayed => simp at late
  | alerted => simp at late
  | reddened => simp at late
  | _ => rfl

theorem dead_of_told (deed : Deed stage world occurrences next) {turret : String}
    (told : .playerKilled turret ∈ occurrences) : next.player.alive = false := by
  cases deed with
  | killed => rfl
  | device _ deed =>
      cases deed with
      | held => simp [Turret.announceLock] at told
      | fired => simp [Turret.announceLock] at told
      | _ => simp at told
  | blocked => simp at told
  | _ => simp at told

/-- Alarms change by delays and in their own stage. -/
theorem alarms_eq (deed : Deed stage world occurrences next) (calm : stage ≠ .alarm)
    (undelayed : ∀ occurrence ∈ occurrences, occurrence.kind ≠ .alarmDelayApplied) :
    next.devices.view Device.alarm? = world.devices.view Device.alarm? := by
  cases deed with
  | device found deed =>
      apply Roster.view_modify_of_hidden
      intro device hdevice
      obtain rfl := Option.some.inj (found.symm.trans hdevice)
      exact deed.alarm?_eq
  | delayed => exact absurd rfl (undelayed _ List.mem_cons_self)
  | alerted => exact absurd rfl calm
  | reddened => exact absurd rfl calm
  | _ => rfl

end Deed

namespace Deeds

variable {stages : Set Stage} {world last : World} {occurrences : List Occurrence}

theorem player_eq (deeds : Deeds stages world occurrences last) (still : .turrets ∉ stages)
    (halted : .walk ∉ stages) : last.player = world.player :=
  deeds.keeps (P := fun next => next.player = world.player)
    (fun admitted deed h => (deed.player_eq (by rintro rfl; exact still admitted)
      (by rintro rfl; exact halted admitted)).trans h) rfl

theorem player_of_dead (deeds : Deeds stages world occurrences last)
    (dead : world.player.alive = false) : last.player = world.player :=
  deeds.keeps (P := fun next => next.player = world.player)
    (fun _ deed h => (deed.player_of_dead (h ▸ dead)).trans h) rfl

theorem position_eq (deeds : Deeds stages world occurrences last) (halted : .walk ∉ stages) :
    last.player.position = world.player.position :=
  deeds.keeps (P := fun next => next.player.position = world.player.position)
    (fun admitted deed h => (deed.position_eq (by rintro rfl; exact halted admitted)).trans h) rfl

/-- Who is reported killed is dead from then on. -/
theorem dead_of_told (deeds : Deeds stages world occurrences last) {turret : String}
    (told : .playerKilled turret ∈ occurrences) : last.player.alive = false := by
  induction deeds with
  | nil => simp at told
  | cons _ deed deeds ih =>
      rcases List.mem_append.mp told with told | told
      · have dead := deed.dead_of_told told
        rw [deeds.player_of_dead dead, dead]
      · exact ih told

theorem alarms_eq (deeds : Deeds stages world occurrences last) (calm : .alarm ∉ stages)
    (undelayed : ∀ occurrence ∈ occurrences, occurrence.kind ≠ .alarmDelayApplied) :
    last.devices.view Device.alarm? = world.devices.view Device.alarm? := by
  induction deeds with
  | nil => rfl
  | cons admitted deed _ ih =>
      rw [ih fun occurrence member => undelayed occurrence (List.mem_append_right _ member)]
      exact deed.alarms_eq (by rintro rfl; exact calm admitted)
        fun occurrence member => undelayed occurrence (List.mem_append_left _ member)

end Deeds

/-- No device comes or goes. -/
theorem Deeds.keys_eq {stages : Set Stage} {world last : World} {occurrences : List Occurrence}
    (deeds : Deeds stages world occurrences last) : last.devices.keys = world.devices.keys :=
  Roster.keys_of_view_eq deeds.types_eq

/-! ## Turrets -/

/-- All of a turret but the target that it holds: its switch, its place, its make and its orders. -/
def Device.stance? (device : Device) : Option (Bool × Point × Turret) :=
  device.turret?.map fun turret => (device.enabled, device.position, turret.release)

/-- What a turret is built like. -/
def Turret.make (turret : Turret) : Turret :=
  { turret with desiredTarget := none, currentTarget := none, lockTicks := 0 }

/-- All of a turret but its hold and its orders. -/
def Device.emplacement? (device : Device) : Option (Bool × Point × Turret) :=
  device.turret?.map fun turret => (device.enabled, device.position, turret.make)

theorem Turret.release_track (turret : Turret) (target : String) :
    (turret.track target).release = turret.release := by
  unfold track
  split <;> rfl

theorem Device.emplacement?_of_stance? (device : Device) :
    (device.stance?.map fun stance => (stance.1, stance.2.1, stance.2.2.make)) =
      device.emplacement? := by
  simp [stance?, emplacement?, Turret.make, Turret.release, Function.comp_def]

theorem Device.stance?_patrol (device : Device) : device.patrol.stance? = device.stance? :=
  shown_patrol (fun kind _ => by simp [stance?, turret?, kind]) device

namespace Device.Deed

variable {world : World} {key : String} {stage : Stage} {device device' : Device}
  {occurrences : List Occurrence}

theorem stance?_eq (deed : Deed world key stage device occurrences device')
    (unscripted : stage.line? = none) : device'.stance? = device.stance? := by
  cases deed with
  | patrolled => exact device.stance?_patrol
  | released kind => simp [stance?, turret?, kind, Turret.release]
  | held kind => simp [stance?, turret?, kind, Turret.release_track]
  | fired kind _ _ _ aimed =>
      have hrelease := Turret.release_track
      simp_all [stance?, turret?, Turret.release]
  | _ => simp_all [stance?, turret?, Stage.line?]

theorem emplacement?_eq (deed : Deed world key stage device occurrences device') :
    device'.emplacement? = device.emplacement? := by
  by_cases unscripted : stage.line? = none
  · rw [← device'.emplacement?_of_stance?, deed.stance?_eq unscripted, emplacement?_of_stance?]
  · cases deed with
    | retargeted _ _ kind => simp [emplacement?, turret?, kind, Turret.retarget, Turret.make]
    | _ => simp_all [emplacement?, turret?, Stage.line?]

end Device.Deed

/-! ## Places -/

theorem Device.Deed.position_eq {world : World} {key : String} {stage : Stage}
    {device device' : Device} {occurrences : List Occurrence}
    (deed : Deed world key stage device occurrences device') (h : stage ≠ .patrol) :
    device'.position = device.position := by
  cases deed with
  | patrolled => exact absurd rfl h
  | _ => rfl

namespace Deed

variable {stage : Stage} {world next : World} {occurrences : List Occurrence}

theorem stances_eq (deed : Deed stage world occurrences next) (unscripted : stage.line? = none) :
    next.devices.view Device.stance? = world.devices.view Device.stance? :=
  deed.view_eq (fun deed => deed.stance?_eq unscripted) fun kind => by
    simp [Device.stance?, Device.turret?, kind]

theorem emplacements_eq (deed : Deed stage world occurrences next) :
    next.devices.view Device.emplacement? = world.devices.view Device.emplacement? :=
  deed.view_eq Device.Deed.emplacement?_eq fun kind => by
    simp [Device.emplacement?, Device.turret?, kind]

theorem places_eq (deed : Deed stage world occurrences next) (h : stage ≠ .patrol) :
    next.devices.view Device.position = world.devices.view Device.position :=
  deed.view_eq (fun deed => deed.position_eq h) fun _ => rfl

end Deed

namespace Deeds

variable {stages : Set Stage} {world last : World} {occurrences : List Occurrence}

theorem stances_eq (deeds : Deeds stages world occurrences last)
    (unscripted : stages ⊆ {stage | stage.line? = none}) :
    last.devices.view Device.stance? = world.devices.view Device.stance? :=
  deeds.keeps (P := fun next =>
      next.devices.view Device.stance? = world.devices.view Device.stance?)
    (fun admitted deed h => (deed.stances_eq (unscripted admitted)).trans h) rfl

theorem emplacements_eq (deeds : Deeds stages world occurrences last) :
    last.devices.view Device.emplacement? = world.devices.view Device.emplacement? :=
  deeds.keeps (P := fun next =>
      next.devices.view Device.emplacement? = world.devices.view Device.emplacement?)
    (fun _ deed h => deed.emplacements_eq.trans h) rfl

theorem places_eq (deeds : Deeds stages world occurrences last) (h : .patrol ∉ stages) :
    last.devices.view Device.position = world.devices.view Device.position :=
  deeds.keeps (P := fun next =>
      next.devices.view Device.position = world.devices.view Device.position)
    (fun admitted deed heq =>
      (deed.places_eq (by rintro rfl; exact h admitted)).trans heq) rfl

end Deeds

/-- Where turrets are built alike, the one under a key is switched and built like the other. -/
theorem Roster.emplaced_of_view_eq {a b : Roster}
    (h : a.view Device.emplacement? = b.view Device.emplacement?) {key : String} {device : Device}
    {turret : Turret} (found : a.find? key = some device) (kind : device.turret? = some turret) :
    ∃ other turret', b.find? key = some other ∧ other.turret? = some turret' ∧
      other.enabled = device.enabled ∧ turret'.make = turret.make := by
  obtain ⟨other, hother, hsame⟩ := find?_of_view_eq h found
  rw [Device.emplacement?, Device.emplacement?, kind, Option.map_some,
    Option.map_eq_some_iff] at hsame
  obtain ⟨turret', kind', hsame⟩ := hsame
  simp only [Prod.mk.injEq] at hsame
  exact ⟨other, turret', hother, kind', hsame.1, hsame.2.2⟩

theorem Turret.lockDelay_of_make_eq {turret turret' : Turret} (h : turret'.make = turret.make) :
    turret'.lockDelay = turret.lockDelay := by
  have hdelay := congrArg Turret.lockDelay h
  exact hdelay

/-! ## Drones -/

namespace Device

/-- A drone that has been destroyed. -/
def Wrecked (device : Device) : Prop :=
  device.enabled = false ∧ ∃ drone, device.equipment = .drone drone ∧ drone.alive = false

theorem upDrone_eq_true {device : Device} :
    device.upDrone = true ↔
      device.enabled = true ∧ ∃ drone, device.equipment = .drone drone ∧ drone.alive = true := by
  rw [upDrone, Bool.and_eq_true, Option.any_eq_true_iff_get]
  cases h : device.equipment <;> simp [drone?, h]

theorem Wrecked.not_upDrone {device : Device} (h : device.Wrecked) : device.upDrone = false := by
  simp [upDrone, h.1]

theorem upDrone_patrol (device : Device) : device.patrol.upDrone = device.upDrone :=
  shown_patrol (fun kind alive => by simp [upDrone, drone?, kind, alive]) device

namespace Deed

variable {world : World} {key : String} {stage : Stage} {device device' : Device}
  {occurrences : List Occurrence}

/-- No drone comes up again. -/
theorem upDrone_of_next (deed : Deed world key stage device occurrences device')
    (up : device'.upDrone = true) : device.upDrone = true := by
  cases deed with
  | patrolled => rwa [device.upDrone_patrol] at up
  | tagged => exact up
  | _ => simp_all [upDrone, drone?]

/-- A wreck changes nothing but its tag. -/
theorem of_wrecked (deed : Deed world key stage device occurrences device') (h : device.Wrecked) :
    ∃ tag, device' = { device with tag } := by
  obtain ⟨off, drone, kind, down⟩ := h
  cases deed with
  | tagged line tag => exact ⟨some tag, rfl⟩
  | patrolled =>
      have hidle : device.patrol = device := by simp [patrol, kind, off]
      exact ⟨device.tag, hidle⟩
  | destroyed _ kind' up =>
      rw [kind, Equipment.drone.injEq] at kind'
      rw [← kind', down] at up
      exact absurd up Bool.false_ne_true
  | _ => simp_all

end Deed

end Device

namespace Roster

/-- Under a key stands a drone that can be taken as a target. -/
def DroneUp (roster : Roster) (key : String) : Prop :=
  ∃ device, roster.find? key = some device ∧ device.upDrone = true

/-- Under a key stands a drone that has been destroyed. -/
def DroneDown (roster : Roster) (key : String) : Prop :=
  ∃ device, roster.find? key = some device ∧ device.Wrecked

theorem DroneDown.not_up {roster : Roster} {key : String} (down : roster.DroneDown key) :
    ¬roster.DroneUp key := by
  obtain ⟨device, found, wrecked⟩ := down
  rintro ⟨other, hother, up⟩
  obtain rfl := Option.some.inj (found.symm.trans hother)
  exact absurd (wrecked.not_upDrone.symm.trans up) Bool.false_ne_true

end Roster

namespace Deed

variable {stage : Stage} {world next : World} {occurrences : List Occurrence} {key : String}

/-- A deed on a device under one key, or on the first alarm, or on no device. -/
theorem find?_cases (deed : Deed stage world occurrences next) {device' : Device}
    (found : next.devices.find? key = some device') :
    ∃ device, world.devices.find? key = some device ∧
      (device' = device ∨ device.Deed world key stage occurrences device' ∨
        ∃ alarm alarm', device.equipment = .alarm alarm ∧
          device' = { device with equipment := .alarm alarm' }) := by
  have hset {other alarm alarm'} (first : world.devices.alarmEntry? = some (other, alarm))
      (found : (world.setEquipment other (.alarm alarm')).devices.find? key = some device') :
      ∃ device, world.devices.find? key = some device ∧
        (device' = device ∨ device.Deed world key stage occurrences device' ∨
          ∃ alarm alarm', device.equipment = .alarm alarm ∧
            device' = { device with equipment := .alarm alarm' }) := by
    obtain ⟨device, hdevice, kind⟩ := Roster.alarmEntry?_eq_some first
    change (world.devices.modify other _).find? key = some device' at found
    by_cases hkey : key = other
    · subst hkey
      rw [Roster.find?_modify_self, hdevice, Option.map_some, Option.some.injEq] at found
      exact ⟨device, hdevice, .inr (.inr ⟨alarm, alarm', kind, found.symm⟩)⟩
    · rw [Roster.find?_modify_of_ne _ hkey] at found
      exact ⟨device', found, .inl rfl⟩
  cases deed with
  | @device _ _ other device changed _ hdevice deed =>
      rw [World.devices_modifyDevice] at found
      by_cases hkey : key = other
      · subst hkey
        rw [Roster.find?_modify_self, hdevice, Option.map_some, Option.some.injEq] at found
        exact ⟨device, hdevice, .inr (.inl (found ▸ deed))⟩
      · rw [Roster.find?_modify_of_ne _ hkey] at found
        exact ⟨device', found, .inl rfl⟩
  | delayed _ _ first => exact hset first found
  | alerted first => exact hset first found
  | reddened first => exact hset first found
  | _ => exact ⟨device', found, .inl rfl⟩

theorem droneUp_of_next (deed : Deed stage world occurrences next)
    (up : next.devices.DroneUp key) : world.devices.DroneUp key := by
  obtain ⟨device', found, up⟩ := up
  obtain ⟨device, hdevice, rfl | deed | ⟨alarm, alarm', kind, rfl⟩⟩ := deed.find?_cases found
  · exact ⟨device', hdevice, up⟩
  · exact ⟨device, hdevice, deed.upDrone_of_next up⟩
  · simp [Device.upDrone, Device.drone?] at up

/-- What becomes of a device in a deed. -/
theorem find?_next (deed : Deed stage world occurrences next) {device : Device}
    (found : world.devices.find? key = some device) :
    ∃ device', next.devices.find? key = some device' ∧
      (device' = device ∨ device.Deed world key stage occurrences device' ∨
        ∃ alarm alarm', device.equipment = .alarm alarm ∧
          device' = { device with equipment := .alarm alarm' }) := by
  obtain ⟨device', found', -⟩ := Roster.find?_of_view_eq deed.types_eq.symm found
  obtain ⟨other, hother, h⟩ := deed.find?_cases found'
  obtain rfl := Option.some.inj (found.symm.trans hother)
  exact ⟨device', found', h⟩

theorem find?_of_wrecked (deed : Deed stage world occurrences next) {device : Device}
    (found : world.devices.find? key = some device) (wrecked : device.Wrecked) :
    ∃ tag, next.devices.find? key = some { device with tag } := by
  obtain ⟨device', found', rfl | deed | ⟨alarm, alarm', kind, rfl⟩⟩ := deed.find?_next found
  · exact ⟨device'.tag, found'⟩
  · obtain ⟨tag, rfl⟩ := deed.of_wrecked wrecked
    exact ⟨tag, found'⟩
  · obtain ⟨-, drone, hdrone, -⟩ := wrecked
    simp [kind] at hdrone

theorem droneDown (deed : Deed stage world occurrences next)
    (down : world.devices.DroneDown key) : next.devices.DroneDown key := by
  obtain ⟨device, found, wrecked⟩ := down
  obtain ⟨tag, hnext⟩ := deed.find?_of_wrecked found wrecked
  exact ⟨_, hnext, wrecked⟩

/-- A drone that is reported destroyed was not down before, and is down after. -/
theorem down_of_told (deed : Deed stage world occurrences next) {turret : String}
    (told : .droneDestroyed key turret ∈ occurrences) :
    ¬world.devices.DroneDown key ∧ next.devices.DroneDown key := by
  cases deed with
  | @device _ _ other device changed _ found deed =>
      cases deed with
      | destroyed _ kind up =>
          obtain ⟨rfl, -⟩ : key = other ∧ turret = _ := by simpa using told
          have hdown (device' : Device) :
              (world.devices.modify key fun _ => device').find? key = some device' := by
            rw [Roster.find?_modify_self, found, Option.map_some]
          refine ⟨?_, ⟨_, hdown _, rfl, _, rfl, rfl⟩⟩
          rintro ⟨device', found', -, drone', kind', down⟩
          obtain rfl := Option.some.inj (found.symm.trans found')
          obtain rfl := Equipment.drone.inj (kind.symm.trans kind')
          exact absurd (down.symm.trans up) Bool.false_ne_true
      | held => simp [Turret.announceLock] at told
      | fired => simp [Turret.announceLock] at told
      | _ => simp at told
  | blocked => simp at told
  | _ => simp at told

end Deed

namespace Deeds

variable {stages : Set Stage} {world last : World} {occurrences : List Occurrence} {key : String}

theorem droneUp_of_next (deeds : Deeds stages world occurrences last)
    (up : last.devices.DroneUp key) : world.devices.DroneUp key := by
  induction deeds with
  | nil => exact up
  | cons _ deed _ ih => exact deed.droneUp_of_next (ih up)

/-- A wreck stays as it is, but for its tag. -/
theorem find?_of_wrecked (deeds : Deeds stages world occurrences last) {device : Device}
    (found : world.devices.find? key = some device) (wrecked : device.Wrecked) :
    ∃ tag, last.devices.find? key = some { device with tag } := by
  refine deeds.keeps (P := fun next => ∃ tag, next.devices.find? key = some { device with tag })
    ?_ ⟨device.tag, found⟩
  rintro stage before occurrences next - deed ⟨tag, hbefore⟩
  obtain ⟨other, hnext⟩ := deed.find?_of_wrecked hbefore wrecked
  exact ⟨other, hnext⟩

/-- What has been destroyed stays so. -/
theorem droneDown (deeds : Deeds stages world occurrences last)
    (down : world.devices.DroneDown key) : last.devices.DroneDown key :=
  deeds.keeps (P := fun next => next.devices.DroneDown key)
    (fun _ deed h => deed.droneDown h) down

theorem down_of_told (deeds : Deeds stages world occurrences last) {turret : String}
    (told : .droneDestroyed key turret ∈ occurrences) :
    ¬world.devices.DroneDown key ∧ last.devices.DroneDown key := by
  induction deeds with
  | nil => simp at told
  | cons _ deed deeds ih =>
      rcases List.mem_append.mp told with told | told
      · obtain ⟨intact, down⟩ := deed.down_of_told told
        exact ⟨intact, deeds.droneDown down⟩
      · obtain ⟨intact, down⟩ := ih told
        exact ⟨fun gone => intact (deed.droneDown gone), down⟩

end Deeds

end Infiltration
