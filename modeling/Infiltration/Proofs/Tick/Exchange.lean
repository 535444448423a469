import Infiltration.Proofs.Tick.Orders

/-! # Commands that commute

What a command tells does not depend on what the commands before it have done, and two commands that do
not name one device leave the same world in either order. -/

namespace Infiltration

/-! ## Two changes -/

theorem Capped.add64_right_comm (a b c : UInt64) : add64 (add64 a b) c = add64 (add64 a c) b := by
  rw [← UInt64.toNat_inj]
  simp only [toNat_add64]
  omega

/-- It does not matter which of two delays comes first. -/
theorem Alarm.delay_comm (alarm : Alarm) (first second : UInt64) :
    (alarm.delay first).delay second = (alarm.delay second).delay first := by
  obtain ⟨level, escalation, redAt, buffer⟩ := alarm
  cases level <;> cases redAt <;> simp [delay, Capped.add64_right_comm _ first second]

/-- A delay commutes with whatever else is done to the alarm. -/
theorem Script.Command.alter_delayAlarm (tick ticks : UInt64) (command : Command) (device : Device) :
    (delayAlarm ticks).alter tick (command.alter tick device) =
      command.alter tick ((delayAlarm ticks).alter tick device) := by
  obtain ⟨id, position, enabled, tag, equipment⟩ := device
  cases command with
  | delayAlarm other =>
      cases equipment with
      | alarm alarm => simp only [alter, alarm.delay_comm other ticks]
      | _ => rfl
  | _ => cases equipment <;> rfl

theorem Script.Command.cases_seat {command : Command} {bus : Option String} {key : String}
    (seat : command.seat? bus = some key) :
    (∃ ticks, command = delayAlarm ticks) ∨ command.device? = some key := by
  cases command with
  | delayAlarm ticks => exact .inl ⟨ticks, rfl⟩
  | _ => exact .inr seat

/-- Two commands that are for one device but do not both name it do the same to it in either order: one
of them is a delay. -/
theorem Script.Command.alter_comm {first second : Command} {bus : Option String} {key : String}
    (apart : ∀ id, first.device? = some id → second.device? ≠ some id)
    (seat : first.seat? bus = some key) (place : second.seat? bus = some key) (tick : UInt64)
    (device : Device) :
    second.alter tick (first.alter tick device) = first.alter tick (second.alter tick device) := by
  rcases cases_seat seat with ⟨ticks, rfl⟩ | named
  · exact (alter_delayAlarm tick ticks second device).symm
  · rcases cases_seat place with ⟨ticks, rfl⟩ | named'
    · exact alter_delayAlarm tick ticks first device
    · exact absurd named' (apart key named)

theorem Roster.modify_comm (roster : Roster) {key other : String} (h : key ≠ other)
    (f g : Device → Device) :
    (roster.modify key f).modify other g = (roster.modify other g).modify key f := by
  apply ext
  simp only [modify, mapEntries, List.map_map]
  apply List.map_congr_left
  rintro ⟨name, device⟩ -
  by_cases hkey : name = key
  · subst hkey
    simp [h]
  · simp [hkey]

/-! ## Two commands -/

namespace World

variable {world other : World}

theorem bus?_of_types (types : world.devices.view Device.type = other.devices.view Device.type) :
    world.bus? = other.bus? := by
  rw [bus?, bus?, Roster.key_alarmEntry?, Roster.key_alarmEntry?, types]

theorem types_perform (world : World) (line : UInt32) (command : Script.Command) :
    (world.perform line command).1.devices.view Device.type = world.devices.view Device.type :=
  (Tick.perform_deeds world line command).types_eq

theorem tick_perform (world : World) (line : UInt32) (command : Script.Command) :
    (world.perform line command).1.tick = world.tick :=
  (Tick.perform_deeds world line command).tick_eq

/-- What a command tells is settled by the types of the devices. -/
theorem told_of_types (types : world.devices.view Device.type = other.devices.view Device.type)
    (line : UInt32) (command : Script.Command) :
    (world.perform line command).2 = (other.perform line command).2 := by
  have hbus := bus?_of_types types
  cases seat : command.seat? world.bus? with
  | none => rw [perform_of_unseated line seat, perform_of_unseated line (hbus ▸ seat)]
  | some key =>
      have hfits (world : World) :
          ((world.devices.find? key).any fun device => command.fits device.type) =
            ((world.devices.view Device.type).lookup key).any command.fits := by
        rw [Roster.lookup_view, Option.any_map]
      rw [perform_eq line seat, perform_eq line (hbus ▸ seat), hfits, hfits, types]
      split <;> rfl

/-- Commands that do not name one device can change places. -/
theorem perform_comm (world : World) {first second : Script.Command}
    (apart : ∀ id, first.device? = some id → second.device? ≠ some id) (line next : UInt32) :
    ((world.perform line first).1.perform next second).1 =
      ((world.perform next second).1.perform line first).1 := by
  have hfirst := bus?_of_types (types_perform world line first)
  have hsecond := bus?_of_types (types_perform world next second)
  cases seat : first.seat? world.bus? with
  | none =>
      have seat' : first.seat? (world.perform next second).1.bus? = none := by rwa [hsecond]
      rw [perform_of_unseated line seat, perform_of_unseated line seat']
  | some key =>
      have seat' : first.seat? (world.perform next second).1.bus? = some key := by rwa [hsecond]
      cases place : second.seat? world.bus? with
      | none =>
          have place' : second.seat? (world.perform line first).1.bus? = none := by rwa [hfirst]
          rw [perform_of_unseated next place, perform_of_unseated next place']
      | some other =>
          have place' : second.seat? (world.perform line first).1.bus? = some other := by
            rwa [hfirst]
          rw [world_perform next place', world_perform line seat', tick_perform, tick_perform,
            world_perform line seat, world_perform next place]
          by_cases h : key = other
          · -- Only a delay comes to a device that it does not name.
            subst h
            have hcomm := Script.Command.alter_comm apart seat place world.tick
            simp only [modifyDevice, Roster.modify_modify, hcomm]
          · simp only [modifyDevice, Roster.modify_comm _ h]

end World

/-! ## The cues of one tick -/

namespace Tick

/-- What cues tell one after the other is what each tells by itself. -/
theorem told_runCues (cues : List Script.Cue) (world : World) {start : World}
    (types : world.devices.view Device.type = start.devices.view Device.type) :
    (runCues cues world).2 = cues.flatMap fun cue => (runCue cue start).2 := by
  induction cues generalizing world with
  | nil => rfl
  | cons cue rest ih =>
      have hrest := ih (runCue cue world).1 ((runCue_deeds cue world).types_eq.trans types)
      have htold : (runCue cue world).2 = (runCue cue start).2 := by
        simp only [runCue, World.told_of_types types]
      rw [List.flatMap_cons, ← htold, ← hrest]
      rfl

theorem world_runCues_exchange (front back : List Script.Cue) {first second : Script.Cue}
    (apart : ∀ id, first.command.device? = some id → second.command.device? ≠ some id)
    (world : World) :
    (runCues (front ++ first :: second :: back) world).1 =
      (runCues (front ++ second :: first :: back) world).1 := by
  simp only [runCues, List.map_append, List.map_cons, inOrder_append, Phase.andThen, inOrder_cons]
  simp only [runCue, World.perform_comm _ apart]

end Tick

end Infiltration
