import Infiltration.Json.Members
import Infiltration.Proofs.Json.Reading
import Mathlib.Data.List.Nodup

/-! # Forms of plain values are read back

Words, names, texts, lists, options and records: what their readers make of their forms, and that these
forms are plain. -/

namespace Infiltration.Json

/-! ## Numbers and names -/

theorem natBelow?_ofNat {bound n : ℕ} (h : n < bound) :
    natBelow? bound (.integer (.ofNat n)) = some n := if_pos h

@[simp] theorem word64?_ofWord64 (value : UInt64) : word64? (ofWord64 value) = some value := by
  rw [word64?, ofWord64, natBelow?_ofNat value.toNat_lt, Option.map_some, UInt64.ofNat_toNat]

@[simp] theorem word32?_ofWord32 (value : UInt32) : word32? (ofWord32 value) = some value := by
  rw [word32?, ofWord32, natBelow?_ofNat value.toNat_lt, Option.map_some, UInt32.ofNat_toNat]

@[simp] theorem index?_ofIndex {value : ℕ} (h : value < UInt64.size) :
    index? (ofIndex value) = some value := natBelow?_ofNat h

@[simp] theorem signed32?_ofSigned32 (value : Int32) :
    signed32? (ofSigned32 value) = some value := by
  have h : Int32.minValue.toInt ≤ value.toInt ∧ value.toInt ≤ Int32.maxValue.toInt :=
    ⟨value.minValue_le_toInt, value.toInt_le⟩
  rw [ofSigned32, signed32?, if_pos h, Int32.ofInt_toInt]

@[simp] theorem string?_string (text : String) : string? (.string text) = some text := rfl

@[simp] theorem bool?_bool (value : Bool) : bool? (.bool value) = some value := rfl

/-- Where names differ, a value is found by its name. -/
theorem named?_name {α : Type} {all : List α} {name : α → String} (complete : ∀ value, value ∈ all)
    (distinct : (all.map name).Nodup) (value : α) :
    named? all name (.string (name value)) = some value := by
  have hsome : (all.find? fun other => name other = name value).isSome :=
    List.find?_isSome.mpr ⟨value, complete value, by simp⟩
  obtain ⟨other, hother⟩ := Option.isSome_iff_exists.mp hsome
  have hname : name other = name value := by simpa using List.find?_some hother
  rw [named?, hother,
    List.inj_on_of_nodup_map distinct (complete other) (complete value) hname]

/-! ## Lists and options -/

theorem mapM_form {α β : Type} {form : α → β} {read? : β → Option α} {items : List α}
    (back : ∀ item ∈ items, read? (form item) = some item) :
    (items.map form).mapM read? = some items := by
  induction items with
  | nil => rfl
  | cons item more ih =>
      simp [back item List.mem_cons_self, ih fun other member => back other (.tail _ member)]

section

variable {α : Type} {form : α → Json} {read? : Json → Option α}

theorem list?_ofList {items : List α} (back : ∀ item ∈ items, read? (form item) = some item) :
    list? read? (ofList form items) = some items := mapM_form back

theorem nullable?_form {value : α} (apart : form value ≠ .null)
    (back : read? (form value) = some value) : nullable? read? (form value) = some (some value) := by
  unfold nullable?
  split
  · exact absurd ‹_› apart
  · rw [back, Option.map_some]

theorem nullable?_ofOption {value : Option α} (apart : ∀ value, form value ≠ .null)
    (back : ∀ part ∈ value, read? (form part) = some part) :
    nullable? read? (ofOption form value) = some value := by
  cases value with
  | none => rfl
  | some value => exact nullable?_form (apart value) (back value rfl)

end

@[simp] theorem nullable?_word64 (value : Option UInt64) :
    nullable? word64? (ofOption ofWord64 value) = some value :=
  nullable?_ofOption (fun _ => Json.noConfusion) fun value _ => word64?_ofWord64 value

@[simp] theorem nullable?_string (value : Option String) :
    nullable? string? (ofOption .string value) = some value :=
  nullable?_ofOption (fun _ => Json.noConfusion) fun value _ => string?_string value

@[simp] theorem nullable?_of_word32 (value : UInt32) :
    nullable? word32? (ofWord32 value) = some (some value) :=
  nullable?_form Json.noConfusion (word32?_ofWord32 value)

@[simp] theorem nullable?_of_string (text : String) :
    nullable? string? (.string text) = some (some text) := rfl

@[simp] theorem list?_string (texts : List String) :
    list? string? (ofList .string texts) = some texts :=
  list?_ofList fun text _ => string?_string text

@[simp] theorem list?_word32 (values : List UInt32) :
    list? word32? (ofList ofWord32 values) = some values :=
  list?_ofList fun value _ => word32?_ofWord32 value

/-- An object with a member for every entry. -/
theorem mapM_entries {α : Type} {form : α → Json} {read? : Json → Option α}
    {entries : List (String × α)} (back : ∀ entry ∈ entries, read? (form entry.2) = some entry.2) :
    ((entries.map fun entry => (entry.1, form entry.2)).mapM fun member =>
      (read? member.2).map fun value => (member.1, value)) = some entries := by
  apply mapM_form
  intro entry member
  rw [back entry member, Option.map_some]

/-! ## Records -/

namespace Members

section

variable {α : Type} {read? : Json → Option α} {default : α} {name key : String} {json : Json}
  {more : Members}

@[simp] theorem required_here : required ((name, json) :: more) name read? = read? json := by
  simp [required]

@[simp] theorem required_there (h : name ≠ key) :
    required ((key, json) :: more) name read? = required more name read? := by
  rw [required, List.lookup_cons, beq_eq_false_iff_ne.mpr h, required]

@[simp] theorem withDefault_missing : withDefault [] name read? default = some default := rfl

@[simp] theorem withDefault_here :
    withDefault ((name, json) :: more) name read? default = read? json := by
  simp [withDefault]

@[simp] theorem withDefault_there (h : name ≠ key) :
    withDefault ((key, json) :: more) name read? default =
      withDefault more name read? default := by
  rw [withDefault, List.lookup_cons, beq_eq_false_iff_ne.mpr h, withDefault]

end

end Members

/-- Different members with names that are known are all there is to know. -/
theorem known?_of_names {names : List String} {members : Members}
    (known : ∀ member ∈ members, member.1 ∈ names) (distinct : (members.map Prod.fst).Nodup) :
    known? names (.object members) = some members := by
  have hall : members.filter (fun member => names.contains member.1) = members := by
    simpa [List.filter_eq_self] using known
  simp only [known?, hall, distinct, if_true]

/-- Members without any of the names are passed over. -/
theorem known?_append {names : List String} {front : Members}
    (apart : ∀ member ∈ front, member.1 ∉ names) (back : Members) :
    known? names (.object (front ++ back)) = known? names (.object back) := by
  have hfront : front.filter (fun member => names.contains member.1) = [] := by
    simpa [List.filter_eq_nil_iff] using apart
  simp only [known?, List.filter_append, hfront, List.nil_append]

theorem known?_cons {names : List String} {key : String} (apart : key ∉ names) (json : Json)
    (more : Members) :
    known? names (.object ((key, json) :: more)) = known? names (.object more) := by
  have hfront : ∀ member ∈ [(key, json)], member.1 ∉ names := by simpa using apart
  exact known?_append hfront more

theorem known?_append_left {names : List String} {back : Members}
    (apart : ∀ member ∈ back, member.1 ∉ names) (front : Members) :
    known? names (.object (front ++ back)) = known? names (.object front) := by
  have hback : back.filter (fun member => names.contains member.1) = [] := by
    simpa [List.filter_eq_nil_iff] using apart
  simp only [known?, List.filter_append, hback, List.append_nil]

/-! ## Plain forms -/

section

variable (height : ℕ)

@[simp] theorem plain_string (text : String) : Plain height (.string text) := .string height text

@[simp] theorem plain_bool (value : Bool) : Plain height (.bool value) := .bool height value

@[simp] theorem plain_null : Plain height .null := .null height

@[simp] theorem plain_ofWord64 (value : UInt64) : Plain height (ofWord64 value) :=
  .integer height value.toNat_lt

@[simp] theorem plain_ofWord32 (value : UInt32) : Plain height (ofWord32 value) :=
  .integer height (Nat.lt_trans value.toNat_lt (by decide))

@[simp] theorem plain_ofIndex {value : ℕ} (h : value < UInt64.size) : Plain height (ofIndex value) :=
  .integer height h

@[simp] theorem plain_ofSigned32 (value : Int32) : Plain height (ofSigned32 value) := by
  have hle : -2 ^ 31 ≤ value.toInt := value.le_toInt
  have hlt : value.toInt < 2 ^ 31 := value.toInt_lt
  exact .integer height (by change value.toInt.natAbs < 2 ^ 64; omega)

variable {height} {α : Type} {form : α → Json}

theorem plain_ofOption {value : Option α} (plain : ∀ part ∈ value, Plain height (form part)) :
    Plain height (ofOption form value) := by
  cases value with
  | none => exact .null height
  | some value => exact plain value rfl

theorem plain_ofList {items : List α} (plain : ∀ item ∈ items, Plain height (form item)) :
    Plain (height + 1) (ofList form items) :=
  .array (List.forall_mem_map.mpr plain)

@[simp] theorem plain_nullable_word64 (value : Option UInt64) :
    Plain height (ofOption ofWord64 value) :=
  plain_ofOption fun value _ => plain_ofWord64 height value

@[simp] theorem plain_nullable_string (value : Option String) :
    Plain height (ofOption .string value) :=
  plain_ofOption fun value _ => plain_string height value

@[simp] theorem plain_list_string (texts : List String) :
    Plain (height + 1) (ofList .string texts) :=
  plain_ofList fun text _ => plain_string height text

@[simp] theorem plain_list_word32 (values : List UInt32) :
    Plain (height + 1) (ofList ofWord32 values) :=
  plain_ofList fun value _ => plain_ofWord32 height value

/-- An object with a member for every entry. -/
theorem plain_entries {entries : List (String × α)}
    (plain : ∀ entry ∈ entries, Plain height (form entry.2)) :
    Plain (height + 1) (.object (entries.map fun entry => (entry.1, form entry.2))) :=
  .object (List.forall_mem_map.mpr plain)

end

end Infiltration.Json
