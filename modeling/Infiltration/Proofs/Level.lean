import Infiltration.Level.Fault
import Infiltration.Proofs.Roster
import Mathlib.Data.List.Induction

/-! # Devices of a level

In a level without faults no id occurs twice, so a run starts with the devices as the level lists
them, and goes by the alarm that the level lists first. -/

namespace Infiltration

namespace Level

theorem firstRepeat?_eq_none {seen names : List String} :
    firstRepeat? seen names = none ↔ names.Nodup ∧ ∀ name ∈ names, name ∉ seen := by
  induction names generalizing seen with
  | nil => simp [firstRepeat?]
  | cons name rest ih =>
      rw [firstRepeat?]
      split
      · simp_all
      · rename_i hfresh
        rw [ih]
        simp only [List.nodup_cons, List.mem_cons, forall_eq_or_imp]
        constructor
        · rintro ⟨hrest, hapart⟩
          exact ⟨⟨fun member => hapart name member (.inl rfl), hrest⟩, hfresh,
            fun other member hseen => hapart other member (.inr hseen)⟩
        · rintro ⟨⟨habsent, hrest⟩, -, hapart⟩
          refine ⟨hrest, fun other member => ?_⟩
          rintro (rfl | hseen)
          · exact habsent member
          · exact hapart other member hseen

/-- A level is sound if no part of the check finds a fault. -/
theorem fault?_eq_none {level : Level} :
    level.fault? = none ↔
      level.duplicate? = none ∧ level.surplusAlarms? = none ∧ level.emptyPath? = none ∧
        level.shortPatrol? = none ∧ level.unknownScope? = none ∧ level.outside? = none := by
  simp [fault?]

theorem nodup_ids {level : Level} (sound : level.fault? = none) :
    (level.devices.map Device.id).Nodup := by
  have hduplicate := (fault?_eq_none.mp sound).1
  rw [duplicate?, Option.map_eq_none_iff] at hduplicate
  exact (firstRepeat?_eq_none.mp hduplicate).1

/-- A sound level has a path for the player. -/
theorem playerPath_ne_nil {level : Level} (sound : level.fault? = none) : level.playerPath ≠ [] := by
  obtain ⟨-, -, hpath, -⟩ := fault?_eq_none.mp sound
  intro hnil
  simp [emptyPath?, hnil] at hpath

/-- Whatever point a sound level names lies on its map. -/
theorem contains_landmark {level : Level} (sound : level.fault? = none) (mark : Landmark × Point)
    (member : mark ∈ level.landmarks) : level.map.contains mark.2 = true := by
  obtain ⟨-, -, -, -, -, houtside⟩ := fault?_eq_none.mp sound
  rw [outside?, Option.map_eq_none_iff, List.find?_eq_none] at houtside
  simpa using houtside mark member

/-- The ids of the devices with their types. -/
def types (level : Level) : List (String × DeviceType) :=
  level.devices.map fun device => (device.id, device.type)

theorem mem_types_of_device? {level : Level} {id : String} {device : Device}
    (h : level.device? id = some device) : (id, device.type) ∈ level.types := by
  have hid : device.id = id := by simpa using List.find?_some h
  exact List.mem_map.mpr ⟨device, List.mem_of_find?_eq_some h, by rw [hid]⟩

end Level

/-! ## The devices at the start -/

theorem Roster.entries_ofDevices {devices : List Device} (distinct : (devices.map Device.id).Nodup) :
    (ofDevices devices).entries = devices.map fun device => (device.id, device) := by
  apply entries_ofList
  rwa [List.map_map]

private theorem Roster.ofDevices_concat (devices : List Device) (device : Device) :
    ofDevices (devices ++ [device]) = (ofDevices devices).insert device.id device := by
  simp [ofDevices, ofList]

/-- The keys are the ids, each where it first comes up. -/
theorem Roster.keys_ofDevices (devices : List Device) :
    (ofDevices devices).keys = (devices.map Device.id).eraseDups := by
  induction devices using List.reverseRecOn with
  | nil => rfl
  | append_singleton devices device ih =>
      rw [ofDevices_concat, List.map_append, List.map_singleton, List.eraseDups_append, ← ih]
      by_cases taken : device.id ∈ devices.map Device.id
      · have hkey : device.id ∈ (ofDevices devices).keys := by rwa [ih, List.mem_eraseDups]
        rw [keys_insert_of_mem hkey]
        simp [List.cons_removeAll, taken]
      · have hkey : device.id ∉ (ofDevices devices).keys := by rwa [ih, List.mem_eraseDups]
        rw [keys_insert_of_not_mem hkey]
        simp [List.cons_removeAll, List.eraseDups_cons, taken]

/-- Under each id stands the last device that has it. -/
theorem Roster.find?_ofDevices (devices : List Device) (id : String) :
    (ofDevices devices).find? id = devices.reverse.find? fun device => device.id = id := by
  induction devices using List.reverseRecOn with
  | nil => rfl
  | append_singleton devices device ih =>
      rw [ofDevices_concat, List.reverse_append, List.reverse_singleton, List.singleton_append,
        List.find?_cons]
      by_cases hid : device.id = id
      · subst hid
        simp [find?_insert_self]
      · simp [find?_insert_of_ne _ (Ne.symm hid), ih, hid]

/-- The alarm that a run goes by: the first of the level, where a device that repeats an id stands in
the place of the device before. -/
def Level.alarm? (level : Level) : Option Alarm := (World.start level).devices.alarm?

theorem World.types_start {level : Level} (sound : level.fault? = none) :
    (World.start level).devices.view Device.type = level.types := by
  change ((Roster.ofDevices level.devices).entries.map _) = level.types
  rw [Roster.entries_ofDevices (Level.nodup_ids sound), List.map_map]
  rfl

end Infiltration
