import Infiltration.Proofs.Tick.Escalation
import Mathlib.Data.List.Count
import Mathlib.Data.List.Induction

/-! # The shutter of a camera

Whether a camera is on, and when it comes back, is decided by script lines and by the timers, and by
nothing else in a tick. Of several commands to one camera the last one decides, whatever the others
were. -/

namespace Infiltration

/-- Whether a camera is on, and the tick at which it comes back by itself. -/
structure Shutter where
  on : Bool
  deadline : Option UInt64
  deriving DecidableEq, Repr

/-- The shutter of a camera. -/
def Device.shutter? (device : Device) : Option Shutter :=
  device.camera?.map fun camera => { on := device.enabled, deadline := camera.disabledUntil }

theorem Device.camera?_of_shutter? {device : Device} {shutter : Shutter}
    (h : device.shutter? = some shutter) : ∃ camera, device.camera? = some camera := by
  obtain ⟨camera, hcamera, -⟩ := Option.map_eq_some_iff.mp h
  exact ⟨camera, hcamera⟩

/-- The camera that a command switches off or on. -/
def Script.Command.switched? : Command → Option String
  | disableCamera camera _ => some camera
  | enableCamera camera => some camera
  | _ => none

/-- A camera is switched off or on. -/
def Occurrence.Switches (occurrence : Occurrence) : Prop :=
  occurrence.kind = .deviceDisabled ∨ occurrence.kind = .deviceEnabled

/-- Cameras are switched by script lines and by the timers. -/
theorem Occurrence.stage_of_switches {occurrence : Occurrence} (h : occurrence.Switches) :
    occurrence.stage.line? ≠ none ∨ occurrence.stage = .timers := by
  cases occurrence with
  | cameraDisabled => exact .inl (Option.some_ne_none _)
  | cameraEnabled line => cases line <;> simp [stage, Stage.line?]
  | _ => simp [Switches, kind] at h

namespace Shutter

variable {shutter : Shutter} {camera : String} {tick : UInt64}

/-- What a command makes of the shutter of a camera on a tick. -/
def obey (shutter : Shutter) (camera : String) (tick : UInt64) : Script.Command → Shutter
  | .disableCamera key duration =>
    if key = camera then { on := false, deadline := duration.map (Capped.add64 tick) } else shutter
  | .enableCamera key => if key = camera then { on := true, deadline := none } else shutter
  | _ => shutter

/-- What the commands of cues make of the shutter of a camera, one after the other. -/
def obeyAll (shutter : Shutter) (camera : String) (tick : UInt64) (cues : List Script.Cue) : Shutter :=
  cues.foldl (fun shutter cue => shutter.obey camera tick cue.command) shutter

/-- A shutter that is closed, with a deadline before a tick. -/
def due (shutter : Shutter) (tick : ℕ) : Bool :=
  !shutter.on && shutter.deadline.any fun deadline => deadline.toNat < tick

/-- What has become of a shutter before a tick if it was left alone. -/
def expire (shutter : Shutter) (tick : ℕ) : Shutter :=
  if shutter.due tick then { on := true, deadline := none } else shutter

theorem obey_of_not_switched {command : Script.Command} (h : command.switched? ≠ some camera) :
    shutter.obey camera tick command = shutter := by
  cases command <;> simp_all [obey, Script.Command.switched?]

/-- A command to a camera does not ask what the camera was before. -/
theorem obey_of_switched {command : Script.Command} (h : command.switched? = some camera)
    (other : Shutter) : shutter.obey camera tick command = other.obey camera tick command := by
  cases command <;> simp_all [obey, Script.Command.switched?]

/-- The last command to a camera stands. -/
theorem obeyAll_eq (cues : List Script.Cue) :
    shutter.obeyAll camera tick cues =
      (cues.filter fun cue => cue.command.switched? = some camera).getLast?.elim shutter
        fun cue => shutter.obey camera tick cue.command := by
  induction cues using List.reverseRecOn with
  | nil => rfl
  | append_singleton front cue ih =>
      have hlast : shutter.obeyAll camera tick (front ++ [cue]) =
          (shutter.obeyAll camera tick front).obey camera tick cue.command := by
        simp [obeyAll]
      rw [hlast, List.filter_append]
      by_cases h : cue.command.switched? = some camera
      · simp [h, obey_of_switched h shutter]
      · simp [h, obey_of_not_switched h, ih]

theorem due_of_on (on : shutter.on = true) (tick : ℕ) : shutter.due tick = false := by
  simp [due, on]

/-- Before the first tick nothing is due. -/
theorem expire_zero (shutter : Shutter) : shutter.expire 0 = shutter := by
  simp [expire, due]

theorem expire_expire {early late : ℕ} (h : early ≤ late) (shutter : Shutter) :
    (shutter.expire early).expire late = shutter.expire late := by
  by_cases due : shutter.due early = true
  · have later : shutter.due late = true := by
      simp only [Shutter.due, Bool.and_eq_true, Option.any_eq_true, decide_eq_true_eq] at due ⊢
      obtain ⟨closed, deadline, hdeadline, hlt⟩ := due
      exact ⟨closed, deadline, hdeadline, Nat.lt_of_lt_of_le hlt h⟩
    simp [expire, due, later, due_of_on]
  · have hsame : shutter.expire early = shutter := if_neg due
    rw [hsame]

/-- What is due on a tick and was left alone until then has its deadline on the tick. -/
theorem due_expire {tick : ℕ} :
    (shutter.expire tick).due (tick + 1) = true ↔
      shutter.on = false ∧ ∃ deadline, shutter.deadline = some deadline ∧ deadline.toNat = tick := by
  by_cases early : shutter.due tick = true
  · have hopen : (shutter.expire tick).due (tick + 1) = false := by
      rw [expire, if_pos early]
      exact due_of_on rfl _
    simp only [due, Bool.and_eq_true, Option.any_eq_true, decide_eq_true_eq] at early
    obtain ⟨-, deadline, hdeadline, hlt⟩ := early
    simp [hopen, hdeadline, Nat.ne_of_lt hlt]
  · rw [expire, if_neg early]
    simp only [due, Bool.and_eq_true, Bool.not_eq_true', Option.any_eq_true, decide_eq_true_eq,
      not_and, not_exists] at early ⊢
    constructor
    · rintro ⟨closed, deadline, hdeadline, hlt⟩
      have hle := early closed deadline hdeadline
      exact ⟨closed, deadline, hdeadline, by omega⟩
    · rintro ⟨closed, deadline, hdeadline, rfl⟩
      exact ⟨closed, deadline, hdeadline, Nat.lt_succ_self _⟩

end Shutter

/-! ## Who touches a shutter -/

theorem Device.Deed.shutter?_eq {world : World} {key : String} {stage : Stage}
    {device device' : Device} {occurrences : List Occurrence}
    (deed : Deed world key stage device occurrences device')
    (idle : ∀ occurrence ∈ occurrences, ¬occurrence.Switches) : device'.shutter? = device.shutter? := by
  cases deed with
  | patrolled => exact shown_patrol (fun kind _ => by simp [shutter?, camera?, kind]) device
  | disabled => exact absurd (.inl rfl) (idle _ List.mem_cons_self)
  | enabled => exact absurd (.inr rfl) (idle _ List.mem_cons_self)
  | woken => exact absurd (.inr rfl) (idle _ List.mem_cons_self)
  | tagged => rfl
  | _ => simp_all [shutter?, camera?]

theorem Deed.shutters_eq {stage : Stage} {world next : World} {occurrences : List Occurrence}
    (deed : Deed stage world occurrences next)
    (idle : ∀ occurrence ∈ occurrences, ¬occurrence.Switches) :
    next.devices.view Device.shutter? = world.devices.view Device.shutter? :=
  deed.view_eq (fun deed => deed.shutter?_eq idle) fun kind => by
    simp [Device.shutter?, Device.camera?, kind]

/-- Who switches no camera leaves all shutters alone. -/
theorem Deeds.shutters_eq {stages : Set Stage} {world last : World} {occurrences : List Occurrence}
    (deeds : Deeds stages world occurrences last)
    (idle : ∀ occurrence ∈ occurrences, ¬occurrence.Switches) :
    last.devices.view Device.shutter? = world.devices.view Device.shutter? := by
  induction deeds with
  | nil => rfl
  | cons _ deed _ ih =>
      rw [ih fun occurrence member => idle occurrence (List.mem_append_right _ member)]
      exact deed.shutters_eq fun occurrence member =>
        idle occurrence (List.mem_append_left _ member)

/-- After the timers nothing in a tick touches a shutter. -/
theorem Deeds.shutters_of_unscripted {stages : Set Stage} {world last : World}
    {occurrences : List Occurrence} (deeds : Deeds stages world occurrences last)
    (unscripted : ∀ stage ∈ stages, stage.line? = none) (untimed : .timers ∉ stages) :
    last.devices.view Device.shutter? = world.devices.view Device.shutter? := by
  apply deeds.shutters_eq
  intro occurrence member switches
  have admitted := deeds.stage_mem occurrence member
  rcases occurrence.stage_of_switches switches with scripted | timed
  · exact scripted (unscripted _ admitted)
  · exact untimed (timed ▸ admitted)

/-! ## Script lines -/

namespace Tick

variable {world : World} {key : String} {shutter : Shutter}

theorem shutter?_perform (found : world.devices.part? key Device.shutter? = some shutter)
    (line : UInt32) (command : Script.Command) :
    (world.perform line command).1.devices.part? key Device.shutter? =
      some (shutter.obey key world.tick command) := by
  have untouched (idle : ∀ occurrence ∈ (world.perform line command).2, ¬occurrence.Switches) :
      (world.perform line command).1.devices.part? key Device.shutter? = some shutter := by
    rw [← found]
    exact Roster.part?_of_view_eq ((perform_deeds world line command).shutters_eq idle) key
  obtain ⟨device, hdevice, hshutter⟩ := Roster.part?_eq_some.mp found
  obtain ⟨camera, hcamera⟩ := Device.camera?_of_shutter? hshutter
  have hpart : world.devices.part? key Device.camera? = some camera :=
    Roster.part?_eq_some.mpr ⟨device, hdevice, hcamera⟩
  have here (change : Device → Device) :
      (world.modifyDevice key change).devices.part? key Device.shutter? = (change device).shutter? := by
    rw [World.devices_modifyDevice, Roster.part?, Roster.find?_modify_self, hdevice, Option.map_some,
      Option.bind_some]
  have elsewhere {other : String} (h : other ≠ key) (change : Device → Device) :
      (world.modifyDevice other change).devices.part? key Device.shutter? = some shutter := by
    rw [World.devices_modifyDevice, Roster.part?, Roster.find?_modify_of_ne _ h.symm]
    exact found
  cases command with
  | disableCamera other duration =>
      by_cases h : other = key
      · subst h
        simp only [World.perform, hpart, here, Shutter.obey, if_true]
        rfl
      · simp only [World.perform, Shutter.obey, if_neg h]
        split
        · exact elsewhere h _
        · exact found
  | enableCamera other =>
      by_cases h : other = key
      · subst h
        simp only [World.perform, hpart, here, Shutter.obey, if_true]
        rfl
      · simp only [World.perform, Shutter.obey, if_neg h]
        split
        · exact elsewhere h _
        · exact found
  | wait => exact found
  | log => exact found
  | _ =>
      refine untouched ?_
      simp only [World.perform]
      split <;> simp [Occurrence.Switches, Occurrence.kind]

/-- A camera obeys the cues of a tick one after the other. -/
theorem shutter?_runCues (found : world.devices.part? key Device.shutter? = some shutter)
    (cues : List Script.Cue) :
    (runCues cues world).1.devices.part? key Device.shutter? =
      some (shutter.obeyAll key world.tick cues) := by
  induction cues generalizing world shutter with
  | nil => exact found
  | cons cue rest ih =>
      have htick := (runCue_deeds cue world).tick_eq
      have hrest := ih (shutter?_perform found cue.line cue.command)
      exact htick ▸ hrest

end Tick

/-! ## The timers -/

/-- Whether the timers bring a device back on a tick. -/
def Device.returns (tick : UInt64) (device : Device) : Bool :=
  device.shutter?.any fun shutter => shutter.due (tick.toNat + 1)

theorem Device.wake_eq (tick : UInt64) (device : Device) :
    (device.wake tick).1.shutter? =
        device.shutter?.map (fun shutter => shutter.expire (tick.toNat + 1)) ∧
      (device.wake tick).2 =
        if device.returns tick then [.cameraEnabled none device.id] else [] := by
  cases kind : device.equipment with
  | camera camera =>
      rcases hswitch : device.enabled with _ | _
      · rcases hdeadline : camera.disabledUntil with _ | deadline
        · simp [wake, kind, hswitch, hdeadline, returns, shutter?, camera?, Shutter.due, Shutter.expire]
        · by_cases due : deadline ≤ tick
          · have hle : deadline.toNat ≤ tick.toNat := UInt64.le_iff_toNat_le.mp due
            simp [wake, kind, hswitch, hdeadline, due, returns, shutter?, camera?, Shutter.due,
              Shutter.expire]
            omega
          · have hle : ¬deadline.toNat ≤ tick.toNat := fun h => due (UInt64.le_iff_toNat_le.mpr h)
            simp [wake, kind, hswitch, hdeadline, due, returns, shutter?, camera?, Shutter.due,
              Shutter.expire]
            omega
      · simp [wake, kind, hswitch, returns, shutter?, camera?, Shutter.due, Shutter.expire]
  | _ => simp [wake, kind, returns, shutter?, camera?]

namespace Tick

variable {world : World} {key : String} {shutter : Shutter}

theorem shutter?_wakeCameras (found : world.devices.part? key Device.shutter? = some shutter) :
    (wakeCameras world).1.devices.part? key Device.shutter? =
      some (shutter.expire (world.tick.toNat + 1)) := by
  obtain ⟨device, hdevice, hshutter⟩ := Roster.part?_eq_some.mp found
  have hfound : (wakeCameras world).1.devices.find? key = some (device.wake world.tick).1 := by
    simp [wakeCameras, Roster.sweep, Roster.map, Roster.find?_mapEntries, hdevice]
  rw [Roster.part?, hfound, Option.bind_some, (device.wake_eq world.tick).1, hshutter, Option.map_some]

theorem occurrences_wakeCameras (world : World) :
    (wakeCameras world).2 =
      ((world.devices.devices.filter fun device => device.returns world.tick).map Device.id).map
        (.cameraEnabled none) := by
  simp only [wakeCameras, Roster.sweep, (Device.wake_eq world.tick _).2]
  induction world.devices.devices with
  | nil => rfl
  | cons device rest ih => by_cases h : device.returns world.tick = true <;> simp [h, ih]

/-- The timers tell once that a camera comes back, if it does. -/
theorem count_wakeCameras (labelled : world.devices.Labelled)
    (found : world.devices.part? key Device.shutter? = some shutter) :
    (wakeCameras world).2.count (.cameraEnabled none key) =
      if shutter.due (world.tick.toNat + 1) then 1 else 0 := by
  have hinjective : Function.Injective (Occurrence.cameraEnabled none) :=
    fun _ _ h => (Occurrence.cameraEnabled.inj h).2
  have distinct := Roster.nodup_map_id_filter labelled fun device => device.returns world.tick
  obtain ⟨device, hdevice, hshutter⟩ := Roster.part?_eq_some.mp found
  have hmember : key ∈ (world.devices.devices.filter fun device =>
      device.returns world.tick).map Device.id ↔ shutter.due (world.tick.toNat + 1) = true := by
    rw [Roster.mem_map_id_filter labelled]
    simp [hdevice, Device.returns, hshutter]
  rw [occurrences_wakeCameras, List.count_map_of_injective _ _ hinjective, distinct.count,
    if_congr hmember rfl rfl]

end Tick

end Infiltration
