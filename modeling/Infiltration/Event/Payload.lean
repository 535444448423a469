/-!
The facts that an event carries: flat values under keys, in the order of the keys' characters.
-/

namespace Infiltration

/-- A fact is flat: values do not nest. -/
inductive Fact where
  | null
  | flag (value : Bool)
  | count (value : UInt64)
  | text (value : String)
  deriving DecidableEq, Repr

namespace Fact

def text? : Fact → Option String
  | text value => some value
  | _ => none

def count? : Fact → Option UInt64
  | count value => some value
  | _ => none

def display : Fact → String
  | null => "null"
  | flag value => if value then "true" else "false"
  | count value => toString value.toNat
  | text value => value

def ofText? : Option String → Fact
  | some value => text value
  | none => null

def ofCount? : Option UInt64 → Fact
  | some value => count value
  | none => null

end Fact

/-- Facts under keys that increase strictly. -/
structure Payload where
  entries : List (String × Fact)
  sorted : (entries.map Prod.fst).Pairwise (· < ·)
  deriving DecidableEq, Repr

namespace Payload

@[ext]
theorem ext {a b : Payload} (h : a.entries = b.entries) : a = b := by
  cases a
  cases b
  simp_all

def get? (payload : Payload) (key : String) : Option Fact := payload.entries.lookup key

/-- The text under a key, if there is one and it is a text. -/
def text? (payload : Payload) (key : String) : Option String := (payload.get? key).bind Fact.text?

/-! ## Building -/

/-- Put a fact in the place of its key, over the one that is there. -/
def place (key : String) (fact : Fact) : List (String × Fact) → List (String × Fact)
  | [] => [(key, fact)]
  | (other, old) :: rest =>
    if key < other then (key, fact) :: (other, old) :: rest
    else if key = other then (key, fact) :: rest
    else (other, old) :: place key fact rest

theorem mem_keys_place {key name : String} {fact : Fact} {entries : List (String × Fact)}
    (h : name ∈ (place key fact entries).map Prod.fst) :
    name = key ∨ name ∈ entries.map Prod.fst := by
  induction entries with
  | nil => simpa [place] using h
  | cons entry rest ih =>
    obtain ⟨other, old⟩ := entry
    rw [place] at h
    split at h
    · simpa using h
    · split at h
      · rename_i heq
        simp only [List.map_cons, List.mem_cons] at h
        rcases h with h | h
        · exact .inl h
        · exact .inr (by simp [h])
      · simp only [List.map_cons, List.mem_cons] at h
        rcases h with h | h
        · exact .inr (by simp [h])
        · rcases ih h with h | h
          · exact .inl h
          · exact .inr (by simp [h])

theorem pairwise_place {key : String} {fact : Fact} {entries : List (String × Fact)}
    (h : (entries.map Prod.fst).Pairwise (· < ·)) :
    ((place key fact entries).map Prod.fst).Pairwise (· < ·) := by
  induction entries with
  | nil => simp [place]
  | cons entry rest ih =>
    obtain ⟨other, old⟩ := entry
    have hrest := (List.pairwise_cons.1 h).2
    have hother := (List.pairwise_cons.1 h).1
    rw [place]
    split
    · rename_i hlt
      refine List.pairwise_cons.2 ⟨?_, h⟩
      intro name hname
      rcases List.mem_cons.1 hname with rfl | hname
      · exact hlt
      · exact String.lt_trans hlt (hother name hname)
    · rename_i hlt
      split
      · rename_i heq
        exact List.pairwise_cons.2 ⟨fun name hname => heq ▸ hother name hname, hrest⟩
      · rename_i hne
        refine List.pairwise_cons.2 ⟨?_, ih hrest⟩
        intro name hname
        rcases mem_keys_place hname with rfl | hname
        · apply Decidable.byContradiction
          intro hge
          exact hne (String.le_antisymm (String.not_lt.1 hge) (String.not_lt.1 hlt))
        · exact hother name hname

def empty : Payload := ⟨[], List.Pairwise.nil⟩

def insert (payload : Payload) (key : String) (fact : Fact) : Payload :=
  ⟨place key fact payload.entries, pairwise_place payload.sorted⟩

@[simp]
theorem get?_empty (key : String) : empty.get? key = none := rfl

theorem lookup_place_self (key : String) (fact : Fact) (entries : List (String × Fact)) :
    (place key fact entries).lookup key = some fact := by
  induction entries with
  | nil => simp [place]
  | cons entry rest ih =>
    obtain ⟨other, old⟩ := entry
    rw [place]
    split
    · simp
    · split
      · simp
      · rename_i hne
        rw [List.lookup_cons, beq_eq_false_iff_ne.2 hne]
        exact ih

theorem lookup_place_of_ne {key other : String} (h : other ≠ key) (fact : Fact)
    (entries : List (String × Fact)) : (place key fact entries).lookup other = entries.lookup other := by
  induction entries with
  | nil => simp [place, h]
  | cons entry rest ih =>
    obtain ⟨name, old⟩ := entry
    rw [place]
    split
    · rw [List.lookup_cons, beq_eq_false_iff_ne.2 h]
    · split
      · rename_i heq
        subst heq
        rw [List.lookup_cons, List.lookup_cons, beq_eq_false_iff_ne.2 h]
      · rw [List.lookup_cons, List.lookup_cons, ih]

@[simp]
theorem get?_insert_self (payload : Payload) (key : String) (fact : Fact) :
    (payload.insert key fact).get? key = some fact :=
  lookup_place_self key fact payload.entries

theorem get?_insert_of_ne (payload : Payload) {key other : String} (h : other ≠ key) (fact : Fact) :
    (payload.insert key fact).get? other = payload.get? other :=
  lookup_place_of_ne h fact payload.entries

/-- Enter facts one after the other; of two under one key the later stays. -/
def ofList (entries : List (String × Fact)) : Payload :=
  entries.foldl (fun payload entry => payload.insert entry.1 entry.2) empty

end Payload

end Infiltration
