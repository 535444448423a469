import Infiltration.World
import Mathlib.Data.List.Nodup

/-! # Rosters seen through views

A view shows of every device only a part. Changes that a view does not show leave it alone, and two
rosters that a view cannot tell apart stay so when both are changed alike. -/

namespace Infiltration.Roster

variable {α β : Type}

/-! ## Look-up and membership -/

theorem lookup_eq_some_of_mem {entries : List (String × Device)}
    (distinct : (entries.map Prod.fst).Nodup) {key : String} {device : Device}
    (member : (key, device) ∈ entries) : entries.lookup key = some device := by
  induction entries with
  | nil => simp at member
  | cons entry rest ih =>
      obtain ⟨other, old⟩ := entry
      obtain ⟨absent, distinct⟩ := List.nodup_cons.mp distinct
      rcases List.mem_cons.mp member with heq | hrest
      · cases heq
        simp
      · have hne : key ≠ other := by
          rintro rfl
          exact absent (List.mem_map.mpr ⟨_, hrest, rfl⟩)
        rw [List.lookup_cons, beq_eq_false_iff_ne.mpr hne]
        exact ih distinct hrest

/-- Keys do not repeat, so a device is found under every key it is entered under. -/
theorem find?_eq_some {roster : Roster} {key : String} {device : Device} :
    roster.find? key = some device ↔ (key, device) ∈ roster.entries := by
  constructor
  · intro h
    obtain ⟨front, back, heq, -⟩ := List.lookup_eq_some_iff.mp h
    simp [heq]
  · exact lookup_eq_some_of_mem roster.nodup

theorem part?_eq_some {roster : Roster} {key : String} {view : Device → Option α} {part : α} :
    roster.part? key view = some part ↔
      ∃ device, roster.find? key = some device ∧ view device = some part := by
  simp [part?, Option.bind_eq_some_iff]

/-! ## Views -/

/-- The keys in their order, each with what is shown of its device. -/
def view (shown : Device → α) (roster : Roster) : List (String × α) :=
  roster.entries.map fun entry => (entry.1, shown entry.2)

/-- What shows less is determined by what shows more. -/
theorem view_comp (shown : Device → α) (less : α → β) (roster : Roster) :
    roster.view (fun device => less (shown device)) =
      (roster.view shown).map fun entry => (entry.1, less entry.2) := by
  simp [view, List.map_map, Function.comp_def]

theorem map_fst_view (shown : Device → α) (roster : Roster) :
    (roster.view shown).map Prod.fst = roster.keys := by
  simp [view, keys, Function.comp_def]

theorem keys_of_view_eq {shown : Device → α} {a b : Roster} (h : a.view shown = b.view shown) :
    a.keys = b.keys := by
  rw [← map_fst_view shown a, h, map_fst_view]

theorem mem_view_of_find? {shown : Device → α} {roster : Roster} {key : String} {device : Device}
    (h : roster.find? key = some device) : (key, shown device) ∈ roster.view shown :=
  List.mem_map.mpr ⟨_, find?_eq_some.mp h, rfl⟩

theorem find?_of_mem_view {shown : Device → α} {roster : Roster} {key : String} {part : α}
    (h : (key, part) ∈ roster.view shown) :
    ∃ device, roster.find? key = some device ∧ shown device = part := by
  obtain ⟨⟨other, device⟩, member, heq⟩ := List.mem_map.mp h
  cases heq
  exact ⟨device, find?_eq_some.mpr member, rfl⟩

/-- Rosters with one view have the same keys, with devices that the view cannot tell apart. -/
theorem find?_of_view_eq {shown : Device → α} {a b : Roster} (h : a.view shown = b.view shown)
    {key : String} {device : Device} (found : a.find? key = some device) :
    ∃ other, b.find? key = some other ∧ shown other = shown device :=
  find?_of_mem_view (h ▸ mem_view_of_find? found)

private theorem map_modify_congr {shown : Device → α} {key : String} {f g : Device → Device} :
    ∀ (as bs : List (String × Device)),
      (as.map fun entry => (entry.1, shown entry.2)) =
        (bs.map fun entry => (entry.1, shown entry.2)) →
      (∀ a b, (key, a) ∈ as → (key, b) ∈ bs → shown a = shown b → shown (f a) = shown (g b)) →
      (as.map fun entry => (entry.1, shown (if entry.1 = key then f entry.2 else entry.2))) =
        (bs.map fun entry => (entry.1, shown (if entry.1 = key then g entry.2 else entry.2))) := by
  intro as
  induction as with
  | nil =>
      intro bs h _
      have hnil : bs = [] := by simpa using h.symm
      simp [hnil]
  | cons a as ih =>
      intro bs h alike
      cases bs with
      | nil => simp at h
      | cons b bs =>
          obtain ⟨key₁, device₁⟩ := a
          obtain ⟨key₂, device₂⟩ := b
          simp only [List.map_cons, List.cons.injEq, Prod.mk.injEq] at h
          obtain ⟨⟨rfl, hshown⟩, hrest⟩ := h
          have hhead : shown (if key₁ = key then f device₁ else device₁) =
              shown (if key₁ = key then g device₂ else device₂) := by
            by_cases hkey : key₁ = key
            · subst hkey
              simpa using alike device₁ device₂ (by simp) (by simp) hshown
            · simpa [hkey] using hshown
          simp only [List.map_cons, hhead]
          refine congrArg _ (ih bs hrest ?_)
          intro x y hx hy
          exact alike x y (by simp [hx]) (by simp [hy])

/-- Changes that look alike keep the views of two rosters equal. -/
theorem view_modify_congr {shown : Device → α} {a b : Roster} {key : String}
    {f g : Device → Device} (h : a.view shown = b.view shown)
    (alike : ∀ x y, a.find? key = some x → b.find? key = some y → shown x = shown y →
      shown (f x) = shown (g y)) :
    (a.modify key f).view shown = (b.modify key g).view shown := by
  simp only [view, modify, mapEntries, List.map_map, Function.comp_def]
  apply map_modify_congr a.entries b.entries h
  intro x y hx hy
  exact alike x y (find?_eq_some.mpr hx) (find?_eq_some.mpr hy)

theorem modify_id (roster : Roster) (key : String) :
    roster.modify key (fun device => device) = roster := by
  apply ext
  simp [modify, mapEntries]

/-- A change that a view does not show leaves it alone. -/
theorem view_modify_of_hidden {shown : Device → α} {roster : Roster} {key : String}
    {change : Device → Device}
    (hidden : ∀ device, roster.find? key = some device → shown (change device) = shown device) :
    (roster.modify key change).view shown = roster.view shown := by
  rw [← modify_id roster key, view_modify_congr rfl, modify_id]
  intro x y hx _ hxy
  rw [modify_id] at hx
  rw [hidden x hx, hxy]

/-! ## Repeated and idle changes -/

theorem modify_congr {roster : Roster} {key : String} {f g : Device → Device}
    (h : ∀ device, roster.find? key = some device → f device = g device) :
    roster.modify key f = roster.modify key g := by
  apply ext
  apply List.map_congr_left
  rintro ⟨other, device⟩ member
  by_cases hkey : other = key
  · subst hkey
    simp [h device (find?_eq_some.mpr member)]
  · simp [hkey]

theorem modify_of_idle {roster : Roster} {key : String} {change : Device → Device}
    (idle : ∀ device, roster.find? key = some device → change device = device) :
    roster.modify key change = roster :=
  (modify_congr idle).trans (modify_id roster key)

theorem modify_modify (roster : Roster) (key : String) (f g : Device → Device) :
    (roster.modify key f).modify key g = roster.modify key fun device => g (f device) := by
  apply ext
  simp only [modify, mapEntries, List.map_map]
  apply List.map_congr_left
  rintro ⟨other, device⟩ -
  by_cases hkey : other = key <;> simp [hkey]

theorem entries_modify_of_append {roster : Roster} {key : String} {device : Device}
    {front back : List (String × Device)} (h : roster.entries = front ++ (key, device) :: back)
    (change : Device → Device) :
    (roster.modify key change).entries = front ++ (key, change device) :: back := by
  have distinct := roster.nodup
  rw [h, List.map_append, List.map_cons, List.nodup_append, List.nodup_cons] at distinct
  obtain ⟨-, ⟨hback, -⟩, hfront⟩ := distinct
  have hsame (entries : List (String × Device)) (absent : key ∉ entries.map Prod.fst) :
      (entries.map fun entry => (entry.1, if entry.1 = key then change entry.2 else entry.2)) =
        entries := by
    rw [List.map_congr_left (g := id), List.map_id]
    rintro ⟨other, device⟩ member
    have hne : other ≠ key := by
      rintro rfl
      exact absent (List.mem_map_of_mem member)
    simp [hne]
  have habsent : key ∉ front.map Prod.fst := fun member =>
    hfront key member key List.mem_cons_self rfl
  simp only [modify, mapEntries, h, List.map_append, List.map_cons, ite_true]
  rw [hsame front habsent, hsame back hback]

/-! ## Building -/

theorem entries_insert_of_not_mem {roster : Roster} {key : String} (h : key ∉ roster.keys)
    (device : Device) : (roster.insert key device).entries = roster.entries ++ [(key, device)] := by
  rw [insert, dif_neg h]

private theorem entries_foldl_insert (entries : List (String × Device)) (roster : Roster)
    (distinct : (entries.map Prod.fst).Nodup) (fresh : ∀ entry ∈ entries, entry.1 ∉ roster.keys) :
    (entries.foldl (fun roster entry => roster.insert entry.1 entry.2) roster).entries =
      roster.entries ++ entries := by
  induction entries generalizing roster with
  | nil => simp
  | cons entry rest ih =>
      obtain ⟨habsent, distinct⟩ := List.nodup_cons.mp distinct
      have hfresh := fresh entry List.mem_cons_self
      rw [List.foldl_cons, ih _ distinct, entries_insert_of_not_mem hfresh, List.append_assoc,
        List.singleton_append]
      intro other member
      rw [keys_insert_of_not_mem hfresh, List.mem_append, List.mem_singleton]
      rintro (hkey | hkey)
      · exact fresh other (List.mem_cons_of_mem _ member) hkey
      · exact habsent (hkey ▸ List.mem_map_of_mem member)

/-- Entries whose keys do not repeat stay as they are. -/
theorem entries_ofList {entries : List (String × Device)} (distinct : (entries.map Prod.fst).Nodup) :
    (ofList entries).entries = entries :=
  entries_foldl_insert entries empty distinct (by simp [empty, keys])

theorem ofList_entries (roster : Roster) : ofList roster.entries = roster :=
  ext (entries_ofList roster.nodup)

/-! ## The alarm -/

private theorem findSome?_alarm (entries : List (String × Device)) :
    (entries.findSome? fun entry => entry.2.alarm?.map fun alarm => (entry.1, alarm)).map Prod.fst =
      ((entries.map fun entry => (entry.1, entry.2.type)).find? fun entry => entry.2 = .alarm).map
        Prod.fst := by
  induction entries with
  | nil => rfl
  | cons entry rest ih =>
      have htype := entry.2.isSome_alarm?
      cases halarm : entry.2.alarm? with
      | none =>
          have hne : entry.2.type ≠ .alarm := fun h => by simpa [halarm] using htype.mpr h
          simpa [halarm, hne] using ih
      | some alarm =>
          have heq : entry.2.type = .alarm := htype.mp (by simp [halarm])
          simp [halarm, heq]

/-- The types tell which device is the alarm. -/
theorem key_alarmEntry? (roster : Roster) :
    roster.alarmEntry?.map Prod.fst =
      ((roster.view Device.type).find? fun entry => entry.2 = .alarm).map Prod.fst :=
  findSome?_alarm roster.entries

/-- The alarms tell how far the first of them has escalated. -/
theorem alarm?_eq (roster : Roster) :
    roster.alarm? = (roster.view Device.alarm?).findSome? Prod.snd := by
  simp only [alarm?, alarmEntry?, view]
  induction roster.entries with
  | nil => rfl
  | cons entry rest ih =>
      cases halarm : entry.2.alarm? with
      | none => simpa [halarm] using ih
      | some alarm => simp [halarm]

theorem alarmLevel_of_view_eq {a b : Roster} (h : a.view Device.alarm? = b.view Device.alarm?) :
    a.alarmLevel = b.alarmLevel := by
  simp only [alarmLevel, alarm?_eq, h]

theorem alarmEntry?_eq_some {roster : Roster} {key : String} {alarm : Alarm}
    (h : roster.alarmEntry? = some (key, alarm)) :
    ∃ device, roster.find? key = some device ∧ device.equipment = .alarm alarm := by
  obtain ⟨⟨other, device⟩, member, heq⟩ := List.exists_of_findSome?_eq_some h
  obtain ⟨found, halarm, heq⟩ := Option.map_eq_some_iff.mp heq
  cases heq
  exact ⟨device, find?_eq_some.mpr member, Device.alarm?_eq_some.mp halarm⟩

/-- The first alarm stays the first when it changes. -/
theorem alarmEntry?_modify {roster : Roster} {key : String} {alarm alarm' : Alarm}
    (h : roster.alarmEntry? = some (key, alarm)) :
    alarmEntry? (roster.modify key fun device => { device with equipment := .alarm alarm' }) =
      some (key, alarm') := by
  obtain ⟨device, found, hequip⟩ := alarmEntry?_eq_some h
  have hview : (roster.modify key fun device => { device with equipment := .alarm alarm' }).view
      Device.type = roster.view Device.type := by
    apply view_modify_of_hidden
    intro other hother
    obtain rfl : other = device := by simpa [found] using hother.symm
    simp [Device.type, Equipment.type, hequip]
  have hkey := key_alarmEntry?
    (roster.modify key fun device => { device with equipment := .alarm alarm' })
  rw [hview, ← key_alarmEntry?, h] at hkey
  obtain ⟨⟨other, found'⟩, hentry, rfl⟩ := Option.map_eq_some_iff.mp hkey
  obtain ⟨device', hfind, hequip'⟩ := alarmEntry?_eq_some hentry
  rw [find?_modify_self, found, Option.map_some, Option.some.injEq] at hfind
  subst hfind
  simp only [Equipment.alarm.injEq] at hequip'
  rw [hentry, hequip']

end Infiltration.Roster
