import Infiltration.Proofs.Level

/-! # Which fault the check of a level names

A level passes the check exactly if it is sound: six conditions on its ids, its alarms, its paths, its
network and its points. Of a level that is not, the check names the first condition that is broken, with
the first of those that break it. -/

namespace Infiltration

/-- An element is the first of a list with a property. -/
def First {α : Type} (P : α → Prop) (list : List α) (found : α) : Prop :=
  ∃ front back, list = front ++ found :: back ∧ P found ∧ ∀ other ∈ front, ¬P other

theorem find?_eq_some_iff_first {α : Type} {p : α → Bool} {list : List α} {found : α} :
    list.find? p = some found ↔ First (fun a => p a = true) list found := by
  rw [List.find?_eq_some_iff_append]
  constructor
  · rintro ⟨holds, front, back, heq, before⟩
    exact ⟨front, back, heq, holds, fun other member => by simpa using before other member⟩
  · rintro ⟨front, back, heq, holds, before⟩
    exact ⟨holds, front, back, heq, fun other member => by simpa using before other member⟩

/-! ## Sound levels -/

/-- A point is a cell of a map. -/
def LevelMap.Covers (map : LevelMap) (p : Point) : Prop :=
  0 ≤ p.x.toInt ∧ p.x.toInt < map.width.toInt ∧ 0 ≤ p.y.toInt ∧ p.y.toInt < map.height.toInt

instance (map : LevelMap) (p : Point) : Decidable (map.Covers p) :=
  inferInstanceAs (Decidable (_ ∧ _ ∧ _ ∧ _))

namespace Device

/-- A drone whose path has not two points. -/
def Stuck (device : Device) : Prop :=
  ∃ drone, device.equipment = .drone drone ∧ drone.path.length < 2

/-- A device stands on a map, with its path if it is a drone. -/
def Inside (map : LevelMap) (device : Device) : Prop :=
  map.Covers device.position ∧
    ∀ drone, device.equipment = .drone drone → ∀ point ∈ drone.path, map.Covers point

end Device

namespace Level

/-- No two devices have one id. -/
def Distinct (level : Level) : Prop :=
  level.devices.Pairwise fun device other => device.id ≠ other.id

/-- The number of devices that are alarms. -/
def alarmCount (level : Level) : ℕ := level.devices.countP fun device => device.type = .alarm

/-- The network reaches devices of the level only. -/
def Wired (level : Level) : Prop := ∀ id ∈ level.networkScope, ∃ device ∈ level.devices, device.id = id

/-- All points that the level names lie on its map. -/
structure Charted (level : Level) : Prop where
  entry : level.map.Covers level.entry
  exit : level.map.Covers level.exit
  playerPath : ∀ point ∈ level.playerPath, level.map.Covers point
  devices : ∀ device ∈ level.devices, device.Inside level.map

/-- What a level has to be like. -/
structure Sound (level : Level) : Prop where
  distinct : level.Distinct
  oneAlarm : level.alarmCount ≤ 1
  playerPath : level.playerPath ≠ []
  patrols : ∀ device ∈ level.devices, ¬device.Stuck
  wired : level.Wired
  charted : level.Charted

/-- The first point off the map that a level names: the entry, the exit, the player's path, then of one
device after the other its place and its path. -/
inductive FirstOutside (level : Level) : Landmark → Point → Prop where
  | entry (outside : ¬level.map.Covers level.entry) : FirstOutside level .entry level.entry
  | exit (entry : level.map.Covers level.entry) (outside : ¬level.map.Covers level.exit) :
      FirstOutside level .exit level.exit
  | playerPath {point} (entry : level.map.Covers level.entry) (exit : level.map.Covers level.exit)
      (outside : First (fun point => ¬level.map.Covers point) level.playerPath point) :
      FirstOutside level .playerPath point
  | device {front device back} (entry : level.map.Covers level.entry)
      (exit : level.map.Covers level.exit)
      (playerPath : ∀ point ∈ level.playerPath, level.map.Covers point)
      (split : level.devices = front ++ device :: back)
      (before : ∀ other ∈ front, other.Inside level.map)
      (outside : ¬level.map.Covers device.position) :
      FirstOutside level (.device device.id) device.position
  | patrol {front device back drone point} (entry : level.map.Covers level.entry)
      (exit : level.map.Covers level.exit)
      (playerPath : ∀ point ∈ level.playerPath, level.map.Covers point)
      (split : level.devices = front ++ device :: back)
      (before : ∀ other ∈ front, other.Inside level.map) (place : level.map.Covers device.position)
      (kind : device.equipment = .drone drone)
      (outside : First (fun point => ¬level.map.Covers point) drone.path point) :
      FirstOutside level (.patrol device.id) point

/-- The first condition that a level breaks, with the first of those that break it: of two devices with
one id the later, of the drones with short paths the first, and so on. -/
inductive FirstFault (level : Level) : LevelFault → Prop where
  | duplicate {front device back} (split : level.devices = front ++ device :: back)
      (before : front.Pairwise fun device other => device.id ≠ other.id)
      (repeated : ∃ other ∈ front, other.id = device.id) :
      FirstFault level (.duplicateDevice device.id)
  | alarms (distinct : level.Distinct) (many : 1 < level.alarmCount) :
      FirstFault level (.multipleAlarms level.alarmCount)
  | emptyPath (distinct : level.Distinct) (oneAlarm : level.alarmCount ≤ 1)
      (empty : level.playerPath = []) : FirstFault level .emptyPlayerPath
  | shortPatrol {device drone} (distinct : level.Distinct) (oneAlarm : level.alarmCount ≤ 1)
      (playerPath : level.playerPath ≠ []) (first : First Device.Stuck level.devices device)
      (kind : device.equipment = .drone drone) :
      FirstFault level (.shortPatrol device.id drone.path.length)
  | unknownScope {id} (distinct : level.Distinct) (oneAlarm : level.alarmCount ≤ 1)
      (playerPath : level.playerPath ≠ []) (patrols : ∀ device ∈ level.devices, ¬device.Stuck)
      (first : First (fun id => ∀ device ∈ level.devices, device.id ≠ id) level.networkScope id) :
      FirstFault level (.unknownScopeDevice id)
  | outside {landmark point} (distinct : level.Distinct) (oneAlarm : level.alarmCount ≤ 1)
      (playerPath : level.playerPath ≠ []) (patrols : ∀ device ∈ level.devices, ¬device.Stuck)
      (wired : level.Wired) (first : level.FirstOutside landmark point) :
      FirstFault level (.outOfBounds landmark point level.map)

end Level

/-! ## Ids and alarms -/

namespace Level

variable {level : Level} {fault : LevelFault}

theorem distinct_iff : level.Distinct ↔ (level.devices.map Device.id).Nodup := by
  rw [Distinct, List.Nodup, List.pairwise_map]

/-- An element of a list with a head is the head, or one behind it. -/
private theorem exists_split_cons {α : Type} {first a : α} {rest : List α} {Q : List α → Prop} :
    (∃ front back, first :: rest = front ++ a :: back ∧ Q front) ↔
      (first = a ∧ Q []) ∨ ∃ front back, rest = front ++ a :: back ∧ Q (first :: front) := by
  constructor
  · rintro ⟨front, back, heq, h⟩
    cases front with
    | nil => exact .inl ⟨(List.cons.inj heq).1, h⟩
    | cons other front =>
        obtain ⟨rfl, hrest⟩ := List.cons.inj heq
        exact .inr ⟨front, back, hrest, h⟩
  · rintro (⟨rfl, h⟩ | ⟨front, back, rfl, h⟩)
    · exact ⟨[], rest, rfl, h⟩
    · exact ⟨first :: front, back, rfl, h⟩

/-- The repeat that is found has no repeat before it. -/
theorem firstRepeat?_eq_some {seen names : List String} {name : String} :
    firstRepeat? seen names = some name ↔ ∃ front back, names = front ++ name :: back ∧
      front.Nodup ∧ (∀ other ∈ front, other ∉ seen) ∧ (name ∈ seen ∨ name ∈ front) := by
  induction names generalizing seen with
  | nil => simp [firstRepeat?]
  | cons first rest ih =>
      rw [firstRepeat?, exists_split_cons]
      by_cases known : first ∈ seen
      · simp only [known, if_true, Option.some.injEq, List.mem_cons, forall_eq_or_imp, not_true,
          false_and, and_false, exists_false, or_false]
        constructor
        · rintro rfl
          exact ⟨rfl, List.nodup_nil, by simp, .inl known⟩
        · exact And.left
      · have unrepeated : ¬(first = name ∧ ([] : List String).Nodup ∧
            (∀ other ∈ ([] : List String), other ∉ seen) ∧ (name ∈ seen ∨ name ∈ [])) := by
          rintro ⟨rfl, -, -, repeated⟩
          simp [known] at repeated
        rw [if_neg known, ih, or_iff_right unrepeated]
        refine exists₂_congr fun front back => and_congr_right fun _ => ?_
        simp only [List.nodup_cons, List.mem_cons, forall_eq_or_imp, not_or, known, not_false_eq_true,
          true_and]
        grind

theorem duplicate?_eq_none : level.duplicate? = none ↔ level.Distinct := by
  rw [duplicate?, Option.map_eq_none_iff, firstRepeat?_eq_none, distinct_iff]
  simp

theorem duplicate?_eq_some : level.duplicate? = some fault ↔ ∃ front device back,
    level.devices = front ++ device :: back ∧
      (front.Pairwise fun device other => device.id ≠ other.id) ∧
      (∃ other ∈ front, other.id = device.id) ∧ fault = .duplicateDevice device.id := by
  simp only [duplicate?, Option.map_eq_some_iff, firstRepeat?_eq_some]
  constructor
  · rintro ⟨name, ⟨front, back, hsplit, distinct, -, repeated⟩, rfl⟩
    obtain ⟨before, rest, hdevices, rfl, hrest⟩ := List.map_eq_append_iff.mp hsplit
    obtain ⟨device, after, rfl, rfl, -⟩ := List.map_eq_cons_iff.mp hrest
    rw [List.Nodup, List.pairwise_map] at distinct
    exact ⟨before, device, after, hdevices, distinct, by simpa using repeated, rfl⟩
  · rintro ⟨front, device, back, hdevices, distinct, repeated, rfl⟩
    refine ⟨device.id, ⟨front.map Device.id, back.map Device.id, ?_, ?_, ?_, ?_⟩, rfl⟩
    · rw [hdevices, List.map_append, List.map_cons]
    · rwa [List.Nodup, List.pairwise_map]
    · simp
    · simpa using repeated

theorem length_alarms (level : Level) : level.alarms.length = level.alarmCount := by
  rw [alarms, alarmCount, List.countP_eq_length_filter]

theorem surplusAlarms?_eq_none : level.surplusAlarms? = none ↔ level.alarmCount ≤ 1 := by
  simp [surplusAlarms?, length_alarms]

theorem surplusAlarms?_eq_some : level.surplusAlarms? = some fault ↔
    1 < level.alarmCount ∧ fault = .multipleAlarms level.alarmCount := by
  simp [surplusAlarms?, length_alarms, eq_comm]

/-! ## Paths and the network -/

theorem emptyPath?_eq_none : level.emptyPath? = none ↔ level.playerPath ≠ [] := by
  simp [emptyPath?]

theorem emptyPath?_eq_some : level.emptyPath? = some fault ↔
    level.playerPath = [] ∧ fault = .emptyPlayerPath := by
  simp only [emptyPath?, List.isEmpty_iff, Option.ite_none_right_eq_some, Option.some.injEq,
    eq_comm (a := fault)]

/-- What the check says of one device is that it is stuck. -/
private theorem shortPatrol_eq_some (device : Device) :
    (match device.drone? with
      | some drone =>
        if drone.path.length < 2 then some (LevelFault.shortPatrol device.id drone.path.length)
        else none
      | none => none) = some fault ↔
      device.Stuck ∧ ∃ drone, device.equipment = .drone drone ∧
        fault = .shortPatrol device.id drone.path.length := by
  cases kind : device.equipment with
  | drone drone =>
      simp only [Device.drone?, kind, Device.Stuck, Option.ite_none_right_eq_some, Option.some.injEq,
        Equipment.drone.injEq, exists_eq_left', eq_comm (a := fault)]
  | _ => simp [Device.drone?, Device.Stuck, kind]

theorem shortPatrol?_eq_none :
    level.shortPatrol? = none ↔ ∀ device ∈ level.devices, ¬device.Stuck := by
  rw [shortPatrol?, List.findSome?_eq_none_iff]
  refine forall₂_congr fun device _ => ?_
  rw [Option.eq_none_iff_forall_ne_some]
  constructor
  · rintro hnone ⟨drone, kind, short⟩
    exact hnone _ ((shortPatrol_eq_some device).mpr ⟨⟨drone, kind, short⟩, drone, kind, rfl⟩)
  · exact fun free fault h => free ((shortPatrol_eq_some device).mp h).1

theorem shortPatrol?_eq_some : level.shortPatrol? = some fault ↔
    ∃ device drone, First Device.Stuck level.devices device ∧ device.equipment = .drone drone ∧
      fault = .shortPatrol device.id drone.path.length := by
  rw [shortPatrol?, List.findSome?_eq_some_iff]
  constructor
  · rintro ⟨front, device, back, hsplit, found, before⟩
    obtain ⟨stuck, drone, kind, rfl⟩ := (shortPatrol_eq_some device).mp found
    refine ⟨device, drone, ⟨front, back, hsplit, stuck, ?_⟩, kind, rfl⟩
    rintro other member ⟨drone', kind', short'⟩
    have hsome := (shortPatrol_eq_some other).mpr ⟨⟨drone', kind', short'⟩, drone', kind', rfl⟩
    cases (before other member).symm.trans hsome
  · rintro ⟨device, drone, ⟨front, back, hsplit, stuck, before⟩, kind, rfl⟩
    refine ⟨front, device, back, hsplit,
      (shortPatrol_eq_some device).mpr ⟨stuck, drone, kind, rfl⟩, ?_⟩
    intro other member
    rw [Option.eq_none_iff_forall_ne_some]
    exact fun fault h => before other member ((shortPatrol_eq_some other).mp h).1

theorem isNone_device? {id : String} :
    (level.device? id).isNone = true ↔ ∀ device ∈ level.devices, device.id ≠ id := by
  simp [device?]

theorem unknownScope?_eq_none : level.unknownScope? = none ↔ level.Wired := by
  rw [unknownScope?, Option.map_eq_none_iff, List.find?_eq_none]
  refine forall₂_congr fun id _ => ?_
  rw [isNone_device?]
  simp

theorem unknownScope?_eq_some : level.unknownScope? = some fault ↔
    ∃ id, First (fun id => ∀ device ∈ level.devices, device.id ≠ id) level.networkScope id ∧
      fault = .unknownScopeDevice id := by
  simp only [unknownScope?, Option.map_eq_some_iff, find?_eq_some_iff_first, isNone_device?,
    eq_comm (a := fault)]

/-! ## Points off the map -/

theorem contains_eq_true {map : LevelMap} {p : Point} : map.contains p = true ↔ map.Covers p := by
  simp only [LevelMap.contains, LevelMap.Covers, Bool.and_eq_true, decide_eq_true_eq]
  tauto

/-- Whether a point that the level names lies off a map. -/
private def off (map : LevelMap) (mark : Landmark × Point) : Bool := !map.contains mark.2

private theorem off_eq_true {map : LevelMap} {name : Landmark} {point : Point} :
    off map (name, point) = true ↔ ¬map.Covers point := by
  rw [off, Bool.not_eq_true', ← Bool.not_eq_true, contains_eq_true]

private theorem off_eq_false {map : LevelMap} {name : Landmark} {point : Point} :
    off map (name, point) = false ↔ map.Covers point := by
  rw [← Bool.not_eq_true, off_eq_true, not_not]

/-- The first point off a map in a path, all of whose points go by one name. -/
private theorem find?_path {map : LevelMap} {path : List Point} {name landmark : Landmark}
    {point : Point} : (path.map fun point => (name, point)).find? (off map) = some (landmark, point) ↔
      First (fun point => ¬map.Covers point) path point ∧ landmark = name := by
  rw [List.find?_map, Option.map_eq_some_iff]
  simp only [find?_eq_some_iff_first, Function.comp_apply, off_eq_true, Prod.mk.injEq]
  constructor
  · rintro ⟨point, first, rfl, rfl⟩
    exact ⟨first, rfl⟩
  · rintro ⟨first, rfl⟩
    exact ⟨point, first, rfl, rfl⟩

private theorem find?_path_eq_none {map : LevelMap} {path : List Point} {name : Landmark} :
    (path.map fun point => (name, point)).find? (off map) = none ↔
      ∀ point ∈ path, map.Covers point := by
  simp [List.find?_eq_none, off_eq_false]

private theorem find?_deviceLandmarks {map : LevelMap} {device : Device} {landmark : Landmark}
    {point : Point} : (deviceLandmarks device).find? (off map) = some (landmark, point) ↔
      (¬map.Covers device.position ∧ landmark = .device device.id ∧ point = device.position) ∨
        map.Covers device.position ∧ ∃ drone, device.equipment = .drone drone ∧
          First (fun point => ¬map.Covers point) drone.path point ∧ landmark = .patrol device.id := by
  rw [deviceLandmarks, List.find?_cons]
  by_cases inside : map.Covers device.position
  · have hoff : off map (.device device.id, device.position) = false := off_eq_false.mpr inside
    rw [hoff]
    cases kind : device.equipment with
    | drone drone =>
        simp only [Device.drone?, kind, find?_path, inside, not_true, false_and, false_or, true_and,
          Equipment.drone.injEq, exists_eq_left']
    | _ => simp [Device.drone?, kind, inside]
  · have hoff : off map (.device device.id, device.position) = true := off_eq_true.mpr inside
    rw [hoff]
    simp [inside, eq_comm]

private theorem find?_deviceLandmarks_eq_none {map : LevelMap} {device : Device} :
    (deviceLandmarks device).find? (off map) = none ↔ device.Inside map := by
  cases kind : device.equipment with
  | drone drone =>
      simp [deviceLandmarks, Device.drone?, Device.Inside, kind, List.find?_eq_none, off_eq_false]
  | _ => simp [deviceLandmarks, Device.drone?, Device.Inside, kind, off_eq_false]

private theorem find?_devices_eq_none {map : LevelMap} {devices : List Device} :
    (devices.flatMap deviceLandmarks).find? (off map) = none ↔
      ∀ device ∈ devices, device.Inside map := by
  rw [List.find?_flatMap, List.findSome?_eq_none_iff]
  exact forall₂_congr fun device _ => find?_deviceLandmarks_eq_none

private theorem find?_devices {map : LevelMap} {devices : List Device} {mark : Landmark × Point} :
    (devices.flatMap deviceLandmarks).find? (off map) = some mark ↔
      ∃ front device back, devices = front ++ device :: back ∧
        (∀ other ∈ front, other.Inside map) ∧
          (deviceLandmarks device).find? (off map) = some mark := by
  rw [List.find?_flatMap, List.findSome?_eq_some_iff]
  simp only [find?_deviceLandmarks_eq_none]
  grind

/-- The entry and the exit are looked at before the paths and the devices. -/
private theorem find?_landmarks (level : Level) (map : LevelMap) :
    level.landmarks.find? (off map) =
      if ¬map.Covers level.entry then some (.entry, level.entry)
      else if ¬map.Covers level.exit then some (.exit, level.exit)
      else ((level.playerPath.map fun point => (Landmark.playerPath, point)).find? (off map)).or
        ((level.devices.flatMap deviceLandmarks).find? (off map)) := by
  have hentry : ¬map.Covers level.entry ↔ off map (.entry, level.entry) = true := off_eq_true.symm
  have hexit : ¬map.Covers level.exit ↔ off map (.exit, level.exit) = true := off_eq_true.symm
  simp only [hentry, hexit]
  rw [landmarks, List.find?_append, List.find?_cons, List.find?_cons]
  cases off map (.entry, level.entry) <;> cases off map (.exit, level.exit) <;> rfl

theorem outside?_eq_none : level.outside? = none ↔ level.Charted := by
  rw [outside?, Option.map_eq_none_iff]
  change level.landmarks.find? (off level.map) = none ↔ _
  rw [find?_landmarks]
  by_cases entry : level.map.Covers level.entry
  · by_cases exit : level.map.Covers level.exit
    · simp only [entry, exit, not_true, if_false, Option.or_eq_none_iff, find?_path_eq_none,
        find?_devices_eq_none]
      constructor
      · rintro ⟨path, devices⟩
        exact ⟨entry, exit, path, devices⟩
      · exact fun charted => ⟨charted.playerPath, charted.devices⟩
    · simp only [entry, exit, not_true, not_false_eq_true, if_true, if_false, reduceCtorEq, false_iff]
      exact fun charted => exit charted.exit
  · simp only [entry, not_false_eq_true, if_true, reduceCtorEq, false_iff]
    exact fun charted => entry charted.entry

private theorem firstOutside_iff {landmark : Landmark} {point : Point} :
    level.landmarks.find? (off level.map) = some (landmark, point) ↔
      level.FirstOutside landmark point := by
  rw [find?_landmarks]
  constructor
  · intro h
    by_cases entry : level.map.Covers level.entry
    · by_cases exit : level.map.Covers level.exit
      · simp only [entry, exit, not_true, if_false, Option.or_eq_some_iff, find?_path,
          find?_path_eq_none, find?_devices] at h
        rcases h with ⟨first, rfl⟩ | ⟨path, front, device, back, split, before, found⟩
        · exact .playerPath entry exit first
        · rcases find?_deviceLandmarks.mp found with
            ⟨outside, rfl, rfl⟩ | ⟨place, drone, kind, first, rfl⟩
          · exact .device entry exit path split before outside
          · exact .patrol entry exit path split before place kind first
      · simp only [entry, exit, not_true, not_false_eq_true, if_true, if_false, Option.some.injEq,
          Prod.mk.injEq] at h
        obtain ⟨rfl, rfl⟩ := h
        exact .exit entry exit
    · simp only [entry, not_false_eq_true, if_true, Option.some.injEq, Prod.mk.injEq] at h
      obtain ⟨rfl, rfl⟩ := h
      exact .entry entry
  · rintro (outside | ⟨entry, outside⟩ | ⟨entry, exit, first⟩ |
      ⟨entry, exit, path, split, before, outside⟩ |
      ⟨entry, exit, path, split, before, place, kind, first⟩)
    · simp [outside]
    · simp [entry, outside]
    · simp only [entry, exit, not_true, if_false, find?_path.mpr ⟨first, rfl⟩, Option.some_or]
    · simp only [entry, exit, not_true, if_false, find?_path_eq_none.mpr path, Option.none_or]
      exact find?_devices.mpr ⟨_, _, _, split, before, find?_deviceLandmarks.mpr <|
        .inl ⟨outside, rfl, rfl⟩⟩
    · simp only [entry, exit, not_true, if_false, find?_path_eq_none.mpr path, Option.none_or]
      exact find?_devices.mpr ⟨_, _, _, split, before, find?_deviceLandmarks.mpr <|
        .inr ⟨place, _, kind, first, rfl⟩⟩

theorem outside?_eq_some : level.outside? = some fault ↔ ∃ landmark point,
    level.FirstOutside landmark point ∧ fault = .outOfBounds landmark point level.map := by
  simp only [outside?, Option.map_eq_some_iff, Prod.exists, ← firstOutside_iff,
    eq_comm (a := fault)]
  rfl

/-! ## The check -/

theorem sound_iff : level.Sound ↔
    level.duplicate? = none ∧ level.surplusAlarms? = none ∧ level.emptyPath? = none ∧
      level.shortPatrol? = none ∧ level.unknownScope? = none ∧ level.outside? = none := by
  rw [duplicate?_eq_none, surplusAlarms?_eq_none, emptyPath?_eq_none, shortPatrol?_eq_none,
    unknownScope?_eq_none, outside?_eq_none]
  constructor
  · intro sound
    exact ⟨sound.distinct, sound.oneAlarm, sound.playerPath, sound.patrols, sound.wired,
      sound.charted⟩
  · rintro ⟨distinct, oneAlarm, playerPath, patrols, wired, charted⟩
    exact ⟨distinct, oneAlarm, playerPath, patrols, wired, charted⟩

/-- A part of the check speaks only if the parts before it are silent. -/
theorem fault?_eq_some : level.fault? = some fault ↔
    level.duplicate? = some fault ∨ level.duplicate? = none ∧
      (level.surplusAlarms? = some fault ∨ level.surplusAlarms? = none ∧
        (level.emptyPath? = some fault ∨ level.emptyPath? = none ∧
          (level.shortPatrol? = some fault ∨ level.shortPatrol? = none ∧
            (level.unknownScope? = some fault ∨
              level.unknownScope? = none ∧ level.outside? = some fault)))) := by
  simp only [fault?, Option.orElse_eq_orElse, Option.orElse_eq_or, Option.or_eq_some_iff]

/-- The check of a level is exact: it finds no fault exactly in the sound levels, and in each of the
others it finds the first fault. -/
theorem fault?_exact (level : Level) :
    (level.fault? = none ↔ level.Sound) ∧
      ∀ fault, level.fault? = some fault ↔ level.FirstFault fault := by
  constructor
  · rw [fault?_eq_none, sound_iff]
  · intro fault
    rw [fault?_eq_some, duplicate?_eq_some, duplicate?_eq_none, surplusAlarms?_eq_some,
      surplusAlarms?_eq_none, emptyPath?_eq_some, emptyPath?_eq_none, shortPatrol?_eq_some,
      shortPatrol?_eq_none, unknownScope?_eq_some, unknownScope?_eq_none, outside?_eq_some]
    constructor
    · rintro (⟨front, device, back, split, before, repeated, rfl⟩ | ⟨distinct, ⟨many, rfl⟩ |
        ⟨oneAlarm, ⟨empty, rfl⟩ | ⟨path, ⟨device, drone, first, kind, rfl⟩ |
          ⟨patrols, ⟨id, first, rfl⟩ | ⟨wired, landmark, point, first, rfl⟩⟩⟩⟩⟩)
      · exact .duplicate split before repeated
      · exact .alarms distinct many
      · exact .emptyPath distinct oneAlarm empty
      · exact .shortPatrol distinct oneAlarm path first kind
      · exact .unknownScope distinct oneAlarm path patrols first
      · exact .outside distinct oneAlarm path patrols wired first
    · intro first
      cases first with
      | duplicate split before repeated => exact .inl ⟨_, _, _, split, before, repeated, rfl⟩
      | alarms distinct many => exact .inr ⟨distinct, .inl ⟨many, rfl⟩⟩
      | emptyPath distinct oneAlarm empty =>
          exact .inr ⟨distinct, .inr ⟨oneAlarm, .inl ⟨empty, rfl⟩⟩⟩
      | shortPatrol distinct oneAlarm path first kind =>
          exact .inr ⟨distinct, .inr ⟨oneAlarm, .inr ⟨path, .inl ⟨_, _, first, kind, rfl⟩⟩⟩⟩
      | unknownScope distinct oneAlarm path patrols first =>
          exact .inr ⟨distinct, .inr ⟨oneAlarm, .inr ⟨path, .inr ⟨patrols, .inl ⟨_, first, rfl⟩⟩⟩⟩⟩
      | outside distinct oneAlarm path patrols wired first =>
          exact .inr ⟨distinct, .inr ⟨oneAlarm, .inr ⟨path, .inr ⟨patrols,
            .inr ⟨wired, _, _, first, rfl⟩⟩⟩⟩⟩

end Level

end Infiltration
