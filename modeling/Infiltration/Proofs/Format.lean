import Infiltration.Format.Run
import Infiltration.Proofs.Json.Text
import Mathlib.Data.List.Nodup

/-! # Forms tell values apart

The JSON forms of snapshots and events, and of all that they are made of, are exact and differ for
different values. So do their texts. -/

namespace Infiltration

namespace Json

/-- A form that is exact, and another for every other value. -/
structure Faithful {α : Type} (form : α → Json) : Prop where
  exact (value : α) : Exact (form value)
  injective : Function.Injective form

namespace Faithful

variable {α : Type} {form : α → Json}

theorem eq_iff (faithful : Faithful form) {value other : α} :
    form value = form other ↔ value = other :=
  faithful.injective.eq_iff

/-- Values with a faithful form can be told apart by its text. -/
theorem compact_inj (faithful : Faithful form) {value other : α}
    (h : (form value).compact = (form other).compact) : value = other :=
  faithful.injective (Json.compact_inj (faithful.exact value) (faithful.exact other) h)

/-! ## Plain values -/

theorem bool : Faithful Json.bool := ⟨.bool, fun _ _ => Json.bool.inj⟩

theorem string : Faithful Json.string := ⟨.string, fun _ _ => Json.string.inj⟩

theorem natural {number : α → ℕ} (distinct : Function.Injective number) :
    Faithful fun value => .integer (.ofNat (number value)) :=
  ⟨fun _ => .integer _, fun _ _ h => distinct (Int.ofNat.inj (Json.integer.inj h))⟩

theorem word64 : Faithful ofWord64 := natural fun _ _ => UInt64.toNat_inj.mp

theorem word32 : Faithful ofWord32 := natural fun _ _ => UInt32.toNat_inj.mp

theorem index : Faithful ofIndex := natural Function.injective_id

theorem signed32 : Faithful ofSigned32 :=
  ⟨fun _ => .integer _, fun _ _ h => Int32.toInt_inj.mp (Json.integer.inj h)⟩

theorem named (all : List α) {name : α → String} (complete : ∀ value, value ∈ all)
    (distinct : (all.map name).Nodup) : Faithful fun value => .string (name value) where
  exact value := .string (name value)
  injective value other h :=
    List.inj_on_of_nodup_map distinct (complete value) (complete other) (Json.string.inj h)

/-! ## Lists, options and objects -/

theorem list (faithful : Faithful form) : Faithful (ofList form) where
  exact values := .array (by simpa using fun value _ => faithful.exact value)
  injective _ _ h := List.map_injective_iff.mpr faithful.injective (Json.array.inj h)

theorem option (faithful : Faithful form) (apart : ∀ value, form value ≠ .null) :
    Faithful (ofOption form) where
  exact
    | none => .null
    | some value => faithful.exact value
  injective
    | none, none, _ => rfl
    | none, some other, h => absurd h.symm (apart other)
    | some value, none, h => absurd h (apart value)
    | some _, some _, h => congrArg some (faithful.injective h)

theorem word64_ne_null (value : UInt64) : ofWord64 value ≠ .null := Json.noConfusion

theorem string_ne_null (value : String) : Json.string value ≠ .null := Json.noConfusion

/-- An object with a member for every entry. -/
theorem entries (faithful : Faithful form) :
    Faithful fun entries : List (String × α) =>
      .object (entries.map fun entry => (entry.1, form entry.2)) where
  exact entries := .object (List.forall_mem_map.mpr fun entry _ => faithful.exact entry.2)
  injective entries others h := by
    apply List.map_injective_iff.mpr _ (Json.object.inj h)
    intro entry other heq
    obtain ⟨hkey, hform⟩ := Prod.mk.inj heq
    exact Prod.ext hkey (faithful.injective hform)

/-- Whether an optional member is there can be told by the key of the next member. -/
theorem memberIf_inj (faithful : Faithful form) {name key : String} (apart : name ≠ key)
    {value other : Option α} {next next' : Json} {more more' : Members}
    (h : memberIf name form value ++ (key, next) :: more =
      memberIf name form other ++ (key, next') :: more') :
    value = other ∧ next = next' ∧ more = more' := by
  cases value with
  | none =>
      cases other with
      | none => simpa [memberIf] using h
      | some other => simp [memberIf, apart.symm] at h
  | some value =>
      cases other with
      | none => simp [memberIf, apart] at h
      | some other => simpa [memberIf, faithful.eq_iff] using h

theorem exact_memberIf (faithful : Faithful form) (name : String) (value : Option α) :
    ∀ member ∈ memberIf name form value, Exact member.2 := by
  cases value with
  | none => simp [memberIf]
  | some value => simpa [memberIf] using faithful.exact value

end Faithful

end Json

open Json

/-! ## Names -/

theorem Facing.faithful_toJson : Faithful Facing.toJson := .named all mem_all (by decide)

theorem Trigger.faithful_toJson : Faithful Trigger.toJson :=
  .named all (fun trigger => by cases trigger <;> decide) (by decide)

theorem AlarmLevel.faithful_toJson : Faithful AlarmLevel.toJson :=
  .named all (fun level => by cases level <;> decide) (by decide)

theorem DeviceType.faithful_toJson : Faithful DeviceType.toJson :=
  .named all (fun type => by cases type <;> decide) (by decide)

theorem EventKind.faithful_name : Faithful fun kind : EventKind => .string kind.name :=
  .named all (fun kind => by cases kind <;> decide) (by decide)

theorem Category.faithful_name : Faithful fun category : Category => .string category.name :=
  .named all (fun category => by cases category <;> decide) (by decide)

/-! ## Devices -/

namespace Json

/-- Members that are exact, and others for every other value. -/
structure FaithfulMembers {α : Type} (members : α → Members) : Prop where
  exact (value : α) : ∀ member ∈ members value, Exact member.2
  injective : Function.Injective members

namespace Faithful

theorem optionalWord64 : Faithful (ofOption ofWord64) := word64.option word64_ne_null

theorem optionalString : Faithful (ofOption Json.string) := string.option string_ne_null

end Faithful

end Json

theorem Point.faithful_toJson : Faithful Point.toJson where
  exact point := .object (by simp [Faithful.signed32.exact])
  injective
    | ⟨_, _⟩, ⟨_, _⟩, h => by simpa [toJson, Faithful.signed32.eq_iff] using h

theorem Camera.faithful_members : FaithfulMembers Camera.members where
  exact camera := by
    simp [members, Faithful.word32.exact, Facing.faithful_toJson.exact,
      Faithful.optionalWord64.exact]
  injective
    | ⟨_, _, _⟩, ⟨_, _, _⟩, h => by
      simpa [members, Faithful.word32.eq_iff, Facing.faithful_toJson.eq_iff,
        Faithful.optionalWord64.eq_iff] using h

theorem Turret.faithful_members : FaithfulMembers Turret.members where
  exact turret := by
    simp [members, Faithful.word32.exact, Trigger.faithful_toJson.exact,
      Faithful.optionalString.exact]
  injective
    | ⟨_, _, _, _, _, _⟩, ⟨_, _, _, _, _, _⟩, h => by
      simpa [members, Faithful.word32.eq_iff, Trigger.faithful_toJson.eq_iff,
        Faithful.optionalString.eq_iff] using h

theorem Drone.faithful_members : FaithfulMembers Drone.members where
  exact drone := by
    simp [members, Faithful.word32.exact, Point.faithful_toJson.list.exact, Faithful.index.exact,
      Faithful.bool.exact]
  injective
    | ⟨_, _, _, _, _⟩, ⟨_, _, _, _, _⟩, h => by
      simpa [members, Faithful.word32.eq_iff, Point.faithful_toJson.list.eq_iff,
        Faithful.index.eq_iff] using h

theorem Door.faithful_members : FaithfulMembers Door.members where
  exact door := by simp [members, Faithful.bool.exact]
  injective
    | ⟨_, _⟩, ⟨_, _⟩, h => by simpa [members] using h

theorem Alarm.faithful_members : FaithfulMembers Alarm.members where
  exact alarm := by
    simp [members, Faithful.word64.exact, AlarmLevel.faithful_toJson.exact,
      Faithful.optionalWord64.exact]
  injective
    | ⟨_, _, _, _⟩, ⟨_, _, _, _⟩, h => by
      simpa [members, Faithful.word64.eq_iff, AlarmLevel.faithful_toJson.eq_iff,
        Faithful.optionalWord64.eq_iff] using h

namespace Equipment

theorem exact_members (equipment : Equipment) : ∀ member ∈ equipment.members, Exact member.2 := by
  cases equipment with
  | camera part => exact Camera.faithful_members.exact part
  | turret part => exact Turret.faithful_members.exact part
  | drone part => exact Drone.faithful_members.exact part
  | door part => exact Door.faithful_members.exact part
  | alarm part => exact Alarm.faithful_members.exact part
  | terminal => exact fun _ member => absurd member List.not_mem_nil

theorem members_inj {equipment other : Equipment} (htype : equipment.type = other.type)
    (h : equipment.members = other.members) : equipment = other := by
  cases equipment <;> cases other <;> cases htype
  case camera.camera => exact congrArg _ (Camera.faithful_members.injective h)
  case turret.turret => exact congrArg _ (Turret.faithful_members.injective h)
  case drone.drone => exact congrArg _ (Drone.faithful_members.injective h)
  case door.door => exact congrArg _ (Door.faithful_members.injective h)
  case alarm.alarm => exact congrArg _ (Alarm.faithful_members.injective h)
  case terminal.terminal => rfl

end Equipment

theorem Device.faithful_toJson : Faithful Device.toJson where
  exact device := by
    refine .object ?_
    simp only [List.forall_mem_append, List.forall_mem_cons]
    refine ⟨⟨⟨.string _, Faithful.signed32.exact _, Faithful.signed32.exact _, .bool _,
      fun _ member => absurd member List.not_mem_nil⟩, ?_⟩, ?_, ?_⟩
    · exact Faithful.string.exact_memberIf "tag" device.tag
    · exact DeviceType.faithful_toJson.exact device.type
    · exact device.equipment.exact_members
  injective
    | ⟨_, ⟨_, _⟩, _, _, equipment⟩, ⟨_, ⟨_, _⟩, _, _, equipment'⟩, h => by
      have hmembers := Json.object.inj h
      rw [List.append_assoc, List.append_assoc] at hmembers
      obtain ⟨hcommon, hrest⟩ := List.append_inj hmembers rfl
      -- A tag may be missing, but then the type stands in its place.
      obtain ⟨rfl, htype, hequipment⟩ := Faithful.string.memberIf_inj (by decide) hrest
      obtain rfl := Equipment.members_inj (DeviceType.faithful_toJson.injective htype) hequipment
      simpa [Faithful.signed32.eq_iff, and_assoc] using hcommon

/-! ## Snapshots -/

theorem Player.faithful_toJson : Faithful Player.toJson where
  exact player := by
    refine .object ?_
    simp [Faithful.signed32.exact, Faithful.index.exact, Faithful.bool.exact,
      Faithful.optionalString.exact]
  injective
    | ⟨⟨_, _⟩, _, _, _, _⟩, ⟨⟨_, _⟩, _, _, _, _⟩, h => by
      simpa [toJson, Faithful.signed32.eq_iff, Faithful.index.eq_iff,
        Faithful.optionalString.eq_iff, and_assoc] using h

theorem Roster.faithful_toJson : Faithful Roster.toJson where
  exact roster := Device.faithful_toJson.entries.exact roster.entries
  injective _ _ h := Roster.ext (Device.faithful_toJson.entries.injective h)

theorem Snapshot.faithful_toJson : Faithful Snapshot.toJson where
  exact snapshot := by
    refine .object ?_
    simp [Faithful.word64.exact, Player.faithful_toJson.exact, Roster.faithful_toJson.exact,
      AlarmLevel.faithful_toJson.exact]
  injective
    | ⟨_, _, _, _⟩, ⟨_, _, _, _⟩, h => by
      simpa [toJson, Faithful.word64.eq_iff, Player.faithful_toJson.eq_iff,
        Roster.faithful_toJson.eq_iff, AlarmLevel.faithful_toJson.eq_iff] using h

/-! ## Events -/

theorem Fact.faithful_toJson : Faithful Fact.toJson where
  exact
    | .null => .null
    | .flag value => .bool value
    | .count value => Faithful.word64.exact value
    | .text value => .string value
  injective fact other h := by
    cases fact with
    | null =>
        cases other with
        | null => rfl
        | _ => cases h
    | flag value =>
        cases other with
        | flag value' => exact congrArg _ (Json.bool.inj h)
        | _ => cases h
    | count value =>
        cases other with
        | count value' => exact congrArg _ (Faithful.word64.injective h)
        | _ => cases h
    | text value =>
        cases other with
        | text value' => exact congrArg _ (Json.string.inj h)
        | _ => cases h

theorem Payload.faithful_toJson : Faithful Payload.toJson where
  exact payload := Fact.faithful_toJson.entries.exact payload.entries
  injective _ _ h := Payload.ext (Fact.faithful_toJson.entries.injective h)

theorem Event.faithful_toJson : Faithful Event.toJson where
  exact event := by
    refine .object ?_
    simp only [List.forall_mem_append, List.forall_mem_cons]
    refine ⟨⟨⟨Faithful.word64.exact _, Faithful.word64.exact _, .string _, .string _,
      fun _ member => absurd member List.not_mem_nil⟩, ?_⟩, Payload.faithful_toJson.exact _,
      fun _ member => absurd member List.not_mem_nil⟩
    exact Faithful.word32.exact_memberIf "line" event.line
  injective
    | ⟨_, _, _, _, _, _⟩, ⟨_, _, _, _, _, _⟩, h => by
      have hmembers := Json.object.inj h
      rw [List.append_assoc, List.append_assoc] at hmembers
      obtain ⟨hcommon, hrest⟩ := List.append_inj hmembers rfl
      obtain ⟨rfl, hpayload, -⟩ := Faithful.word32.memberIf_inj (by decide) hrest
      obtain rfl := Payload.faithful_toJson.injective hpayload
      simp only [List.cons.injEq, Prod.mk.injEq, true_and, and_true] at hcommon
      obtain ⟨hid, htick, hkind, hcategory⟩ := hcommon
      obtain rfl := Faithful.word64.injective hid
      obtain rfl := Faithful.word64.injective htick
      obtain rfl := EventKind.faithful_name.injective hkind
      obtain rfl := Category.faithful_name.injective hcategory
      rfl

/-! ## Bytes -/

/-- The bytes whose digest is the snapshot's. -/
def Snapshot.bytes (snapshot : Snapshot) : ByteArray := snapshot.toJson.compact.toUTF8

theorem Snapshot.bytes_injective : Function.Injective bytes := fun _ _ h =>
  faithful_toJson.compact_inj (String.toByteArray_inj.mp h)

/-- The bytes whose digest is the event's. -/
def Event.bytes (event : Event) : ByteArray := event.toJson.compact.toUTF8

theorem Event.bytes_injective : Function.Injective bytes := fun _ _ h =>
  faithful_toJson.compact_inj (String.toByteArray_inj.mp h)

end Infiltration
