import Infiltration.Device

/-!
The devices of a running level, each under its key, in the order in which the keys first came up.
Entering a device under a key that is taken keeps the place and replaces the device.
-/

namespace Infiltration

/-- Devices by key. No key occurs twice. -/
structure Roster where
  entries : List (String × Device)
  nodup : (entries.map Prod.fst).Nodup
  deriving DecidableEq, Repr

namespace Roster

def keys (roster : Roster) : List String := roster.entries.map Prod.fst

def devices (roster : Roster) : List Device := roster.entries.map Prod.snd

def find? (roster : Roster) (key : String) : Option Device := roster.entries.lookup key

@[ext]
theorem ext {a b : Roster} (h : a.entries = b.entries) : a = b := by
  cases a
  cases b
  simp_all

/-- The device under a key seen as one of a type. -/
def part? {α : Type} (roster : Roster) (key : String) (view : Device → Option α) : Option α :=
  (roster.find? key).bind view

/-! ## The alarm and the doors -/

/-- The alarm that the whole level listens to, with its key: the first one. -/
def alarmEntry? (roster : Roster) : Option (String × Alarm) :=
  roster.entries.findSome? fun entry => entry.2.alarm?.map fun alarm => (entry.1, alarm)

def alarm? (roster : Roster) : Option Alarm := roster.alarmEntry?.map Prod.snd

/-- How far the alarm has escalated; green where there is none. -/
def alarmLevel (roster : Roster) : AlarmLevel :=
  match roster.alarm? with
  | some alarm => alarm.level
  | none => .green

/-- The first closed door on a cell. -/
def closedDoorAt (roster : Roster) (cell : Point) : Option Device :=
  roster.devices.find? fun device =>
    device.position = cell && device.door?.any fun door => !door.isOpen

/-! ## Changing devices in place -/

/-- Replace every device by one computed from its key and itself. -/
def mapEntries (change : String → Device → Device) (roster : Roster) : Roster where
  entries := roster.entries.map fun entry => (entry.1, change entry.1 entry.2)
  nodup := by
    have h : (roster.entries.map fun entry => (entry.1, change entry.1 entry.2)).map Prod.fst =
        roster.entries.map Prod.fst := by
      simp [List.map_map, Function.comp_def]
    rw [h]
    exact roster.nodup

@[simp]
theorem keys_mapEntries (change : String → Device → Device) (roster : Roster) :
    (roster.mapEntries change).keys = roster.keys := by
  simp [keys, mapEntries, List.map_map, Function.comp_def]

theorem find?_mapEntries (change : String → Device → Device) (roster : Roster) (key : String) :
    (roster.mapEntries change).find? key = (roster.find? key).map (change key) := by
  simp only [find?, mapEntries]
  induction roster.entries with
  | nil => rfl
  | cons entry rest ih =>
    obtain ⟨other, device⟩ := entry
    by_cases h : key = other
    · subst h
      simp
    · simp [List.lookup_cons, beq_eq_false_iff_ne.2 h, ih]

def map (change : Device → Device) (roster : Roster) : Roster :=
  roster.mapEntries fun _ => change

theorem devices_map (change : Device → Device) (roster : Roster) :
    (roster.map change).devices = roster.devices.map change := by
  simp [devices, map, mapEntries, List.map_map, Function.comp_def]

/-- Change the device under one key. -/
def modify (roster : Roster) (key : String) (change : Device → Device) : Roster :=
  roster.mapEntries fun other device => if other = key then change device else device

@[simp]
theorem keys_modify (roster : Roster) (key : String) (change : Device → Device) :
    (roster.modify key change).keys = roster.keys :=
  keys_mapEntries _ roster

theorem find?_modify_self (roster : Roster) (key : String) (change : Device → Device) :
    (roster.modify key change).find? key = (roster.find? key).map change := by
  simp [modify, find?_mapEntries]

theorem find?_modify_of_ne (roster : Roster) {key other : String} (h : other ≠ key)
    (change : Device → Device) : (roster.modify key change).find? other = roster.find? other := by
  simp [modify, find?_mapEntries, h]

/-- Visit the devices in order: change each and collect what the visits report. -/
def sweep {α : Type} (visit : Device → Device × List α) (roster : Roster) : Roster × List α :=
  (roster.map fun device => (visit device).1, roster.devices.flatMap fun device => (visit device).2)

/-! ## Building -/

def empty : Roster := ⟨[], List.nodup_nil⟩

/-- Enter a device under a key, in the place the key already has or else at the end. -/
def insert (roster : Roster) (key : String) (device : Device) : Roster :=
  if h : key ∈ roster.keys then roster.modify key fun _ => device
  else
    { entries := roster.entries ++ [(key, device)]
      nodup := by
        rw [List.map_append, List.nodup_append]
        refine ⟨roster.nodup, by simp, ?_⟩
        intro a ha b hb hab
        simp only [List.map_cons, List.map_nil, List.mem_singleton] at hb
        exact h (hb ▸ hab ▸ ha) }

theorem keys_insert_of_mem {roster : Roster} {key : String} (h : key ∈ roster.keys) (device : Device) :
    (roster.insert key device).keys = roster.keys := by
  simp [insert, h]

theorem keys_insert_of_not_mem {roster : Roster} {key : String} (h : key ∉ roster.keys)
    (device : Device) : (roster.insert key device).keys = roster.keys ++ [key] := by
  rw [insert, dif_neg h]
  simp [keys]

theorem find?_eq_none_iff {roster : Roster} {key : String} :
    roster.find? key = none ↔ key ∉ roster.keys := by
  simp only [find?, keys, List.lookup_eq_none_iff, List.mem_map, not_exists, not_and]
  grind

theorem find?_insert_self (roster : Roster) (key : String) (device : Device) :
    (roster.insert key device).find? key = some device := by
  by_cases h : key ∈ roster.keys
  · obtain ⟨old, hold⟩ := Option.ne_none_iff_exists'.1 fun hnone => find?_eq_none_iff.1 hnone h
    simp [insert, h, find?_modify_self, hold]
  · have hnone := find?_eq_none_iff.2 h
    simp only [find?] at hnone
    simp [insert, h, find?, List.lookup_append, hnone]

theorem find?_insert_of_ne (roster : Roster) {key other : String} (h : other ≠ key) (device : Device) :
    (roster.insert key device).find? other = roster.find? other := by
  by_cases hmem : key ∈ roster.keys
  · simp [insert, hmem, find?_modify_of_ne roster h]
  · have hlast : [(key, device)].lookup other = none := by simp [h]
    simp [insert, hmem, find?, List.lookup_append, hlast]

def ofList (entries : List (String × Device)) : Roster :=
  entries.foldl (fun roster entry => roster.insert entry.1 entry.2) empty

/-- Every device under its own id. -/
def ofDevices (devices : List Device) : Roster :=
  ofList (devices.map fun device => (device.id, device))

end Roster

end Infiltration
