import Infiltration.Json.Parser
import Infiltration.Json.Printer
import Mathlib.Data.Int.Notation
import Mathlib.Data.List.Basic

/-! # Compact texts are unambiguous

No text begins with the compact forms of two values. Numbers have no end mark, so what follows a
value must not begin with a digit; and the values that have lost their spelling are left out. -/

namespace Infiltration.Json

/-! ## Strings -/

theorem unit?_control :
    ∀ n < 0x20, unit? '0' '0' (hexDigit (n / 16)) (hexDigit (n % 16)) = some n := by
  decide

/-- A character is read back from its escape. -/
theorem readUnits_escape (c : Char) (text : List Char) :
    readUnits (escape c ++ text) =
      (readUnits text).map fun (units, rest) => (c.toNat :: units, rest) := by
  by_cases special : c ∈ ['"', '\\', '\x08', '\x0c', '\n', '\r', '\t']
  · simp only [List.mem_cons, List.not_mem_nil, or_false] at special
    rcases special with rfl | rfl | rfl | rfl | rfl | rfl | rfl <;> rfl
  · simp only [List.mem_cons, List.not_mem_nil, or_false, not_or] at special
    obtain ⟨hquote, hslash, hb, hf, hn, hr, ht⟩ := special
    simp only [escape, hquote, hslash, hb, hf, hn, hr, ht, if_false]
    split
    · rename_i control
      simp only [List.cons_append, List.nil_append, readUnits, unit?_control _ control]
    · rename_i visible
      rw [List.singleton_append, readUnits]
      · simp [visible, hslash]
      all_goals simp_all

theorem readUnits_writeChars (chars rest : List Char) :
    readUnits (writeChars chars ('"' :: rest)) = some (chars.map Char.toNat, rest) := by
  induction chars with
  | nil => rfl
  | cons c chars ih => rw [writeChars, readUnits_escape, ih, Option.map_some, List.map_cons]

/-- A string is read back from its text. -/
theorem readString_writeString (text : String) (rest : List Char) :
    readString (writeChars text.toList ('"' :: rest)) = some (some text, rest) := by
  rw [readString, readUnits_writeChars, Option.map_some]
  simp only [charsOf?_map_toNat, Option.map_some, String.ofList_toList]

theorem writeString_inj {text other : String} {rest rest' : List Char}
    (h : writeString text rest = writeString other rest') : text = other ∧ rest = rest' := by
  have hread := congrArg readString (List.cons.inj h).2
  rw [readString_writeString, readString_writeString] at hread
  simpa using hread

/-! ## Numbers -/

/-- A text that does not begin with a digit. -/
def Closed (text : List Char) : Prop := ∀ c ∈ text.head?, c.isDigit = false

theorem closed_nil : Closed [] := by simp [Closed]

theorem closed_cons {c : Char} (h : c.isDigit = false) (rest : List Char) : Closed (c :: rest) := by
  simpa [Closed] using h

theorem takeWhile_toDigits (n : ℕ) {rest : List Char} (closed : Closed rest) :
    (Nat.toDigits 10 n ++ rest).takeWhile Char.isDigit = Nat.toDigits 10 n := by
  have hdigits : ∀ c ∈ Nat.toDigits 10 n, c.isDigit = true := fun c member =>
    Nat.isDigit_of_mem_toDigits (by decide) (by decide) member
  have hrest : rest.takeWhile Char.isDigit = [] := by
    cases rest with
    | nil => rfl
    | cons c rest => simpa [List.takeWhile_cons] using closed c rfl
  rw [List.takeWhile_append_of_pos hdigits, hrest, List.append_nil]

theorem toDigits_inj {n m : ℕ} {rest rest' : List Char} (closed : Closed rest)
    (closed' : Closed rest') (h : Nat.toDigits 10 n ++ rest = Nat.toDigits 10 m ++ rest') :
    n = m ∧ rest = rest' := by
  have hdigits : Nat.toDigits 10 n = Nat.toDigits 10 m := by
    rw [← takeWhile_toDigits n closed, h, takeWhile_toDigits m closed']
  refine ⟨?_, ?_⟩
  · have hvalue := congrArg (fun digits => Nat.ofDigitChars 10 digits 0) hdigits
    simpa only [Nat.ofDigitChars_ten_toDigits] using hvalue
  · rw [hdigits] at h
    exact List.append_cancel_left h

theorem head?_toDigits (n : ℕ) (rest : List Char) :
    ∃ c, (Nat.toDigits 10 n ++ rest).head? = some c ∧ c.isDigit = true := by
  cases h : Nat.toDigits 10 n with
  | nil => exact absurd h Nat.toDigits_ne_nil
  | cons c digits =>
      have hmember : c ∈ Nat.toDigits 10 n := h ▸ List.mem_cons_self
      exact ⟨c, rfl, Nat.isDigit_of_mem_toDigits (by decide) (by decide) hmember⟩

theorem writeInteger_inj {a b : ℤ} {rest rest' : List Char} (closed : Closed rest)
    (closed' : Closed rest') (h : writeInteger a ++ rest = writeInteger b ++ rest') :
    a = b ∧ rest = rest' := by
  have hsign (n m : ℕ) (rest rest' : List Char) :
      Nat.toDigits 10 n ++ rest ≠ '-' :: (Nat.toDigits 10 m ++ rest') := by
    intro heq
    obtain ⟨c, hhead, hdigit⟩ := head?_toDigits n rest
    rw [heq] at hhead
    cases hhead
    exact absurd hdigit (by decide)
  cases a with
  | ofNat n =>
      cases b with
      | ofNat m =>
          obtain ⟨rfl, hrest⟩ := toDigits_inj closed closed' h
          exact ⟨rfl, hrest⟩
      | negSucc m => exact absurd h (hsign _ _ _ _)
  | negSucc n =>
      cases b with
      | ofNat m => exact absurd h.symm (hsign _ _ _ _)
      | negSucc m =>
          obtain ⟨hvalue, hrest⟩ := toDigits_inj closed closed' (List.cons.inj h).2
          exact ⟨congrArg _ (Nat.succ.inj hvalue), hrest⟩

/-! ## Values -/

/-- A value whose text has not lost anything. -/
inductive Exact : Json → Prop where
  | null : Exact .null
  | bool (value : Bool) : Exact (.bool value)
  | integer (value : ℤ) : Exact (.integer value)
  | string (text : String) : Exact (.string text)
  | array {items : List Json} (items_exact : ∀ item ∈ items, Exact item) : Exact (.array items)
  | object {members : List (String × Json)} (members_exact : ∀ member ∈ members, Exact member.2) :
      Exact (.object members)

/-- What a first character announces. All digits and the minus sign announce a number, and either of
two letters a truth value. -/
def announced (c : Char) : Char :=
  if c.isDigit || c = '-' then '0' else if c = 'f' then 't' else c

/-- What the text of an exact value announces. -/
def herald : Json → Char
  | .null => 'n'
  | .bool _ => 't'
  | .integer _ => '0'
  | .decimal _ => '0'
  | .string _ => '"'
  | .array _ => '['
  | .object _ => '{'
  | .unheld => 'n'

theorem head?_write {json : Json} (exact : Exact json) (depth : ℕ) (rest : List Char) :
    (write .compact depth json rest).head?.map announced = some json.herald := by
  cases exact with
  | null => rfl
  | bool value => cases value <;> rfl
  | integer value =>
      cases value with
      | ofNat n =>
          obtain ⟨c, hhead, hdigit⟩ := head?_toDigits n rest
          change (Nat.toDigits 10 n ++ rest).head?.map announced = _
          rw [hhead, Option.map_some, announced, hdigit]
          rfl
      | negSucc n => rfl
  | string text => rfl
  | array => rfl
  | object => rfl

theorem head?_write_ne {json : Json} (exact : Exact json) (depth : ℕ) (rest : List Char) :
    (write .compact depth json rest).head? ≠ some ']' := by
  intro h
  have hherald := head?_write exact depth rest
  rw [h] at hherald
  cases exact <;> cases hherald

/-! ## Parts in a row -/

/-- Parts with a comma before each, and an end mark. -/
def series {α : Type} (part : α → List Char → List Char) (stop : Char) :
    List α → List Char → List Char
  | [], rest => stop :: rest
  | first :: more, rest => ',' :: part first (series part stop more rest)

/-- Parts with commas between them, and an end mark. -/
def row {α : Type} (part : α → List Char → List Char) (stop : Char) :
    List α → List Char → List Char
  | [], rest => stop :: rest
  | first :: more, rest => part first (series part stop more rest)

/-- Where a part ends can be told, if some other part of a kind stands in its place. -/
def Separable {α : Type} (part : α → List Char → List Char) (kind : α → Prop) (first : α) : Prop :=
  ∀ other, kind other → ∀ rest rest', Closed rest → Closed rest' →
    part first rest = part other rest' → first = other ∧ rest = rest'

section

variable {α : Type} {part : α → List Char → List Char} {kind : α → Prop} {stop : Char}
  {parts others : List α} {rest rest' : List Char}

theorem closed_series (plain : stop.isDigit = false) (parts : List α) (rest : List Char) :
    Closed (series part stop parts rest) := by
  cases parts with
  | nil => exact closed_cons plain rest
  | cons => exact closed_cons (by decide) _

theorem series_inj (plain : stop.isDigit = false) (apart : stop ≠ ',')
    (separable : ∀ first ∈ parts, Separable part kind first) (kinds : ∀ other ∈ others, kind other)
    (h : series part stop parts rest = series part stop others rest') :
    parts = others ∧ rest = rest' := by
  induction parts generalizing others with
  | nil =>
      cases others with
      | nil => exact ⟨rfl, (List.cons.inj h).2⟩
      | cons other more => exact absurd (List.cons.inj h).1 apart
  | cons first more ih =>
      cases others with
      | nil => exact absurd (List.cons.inj h).1.symm apart
      | cons other rest =>
          obtain ⟨rfl, hmore⟩ := separable first List.mem_cons_self other
            (kinds other List.mem_cons_self) _ _ (closed_series plain _ _) (closed_series plain _ _)
            (List.cons.inj h).2
          obtain ⟨rfl, hrest⟩ := ih (fun part member => separable part (.tail _ member))
            (fun part member => kinds part (.tail _ member)) hmore
          exact ⟨rfl, hrest⟩

theorem row_inj (plain : stop.isDigit = false) (apart : stop ≠ ',')
    (separable : ∀ first ∈ parts, Separable part kind first) (kinds : ∀ other ∈ others, kind other)
    (begun : ∀ first ∈ parts ++ others, ∀ rest, (part first rest).head? ≠ some stop)
    (h : row part stop parts rest = row part stop others rest') :
    parts = others ∧ rest = rest' := by
  cases parts with
  | nil =>
      cases others with
      | nil => exact ⟨rfl, (List.cons.inj h).2⟩
      | cons other more =>
          exact absurd (congrArg List.head? h).symm (begun other (by simp) _)
  | cons first more =>
      cases others with
      | nil => exact absurd (congrArg List.head? h) (begun first (by simp) _)
      | cons other rest =>
          obtain ⟨rfl, hmore⟩ := separable first List.mem_cons_self other
            (kinds other List.mem_cons_self) _ _ (closed_series plain _ _) (closed_series plain _ _)
            h
          obtain ⟨rfl, hrest⟩ := series_inj plain apart
            (fun part member => separable part (.tail _ member))
            (fun part member => kinds part (.tail _ member)) hmore
          exact ⟨rfl, hrest⟩

end

/-! ## Arrays and objects are rows -/

theorem writeMoreItems_compact (depth : ℕ) (items : List Json) (rest : List Char) :
    writeMoreItems .compact depth items rest =
      series (write .compact (depth + 1)) ']' items rest := by
  induction items with
  | nil => rfl
  | cons item more ih =>
      rw [writeMoreItems, ih]
      rfl

theorem writeItems_compact (depth : ℕ) (items : List Json) (rest : List Char) :
    writeItems .compact depth items rest = row (write .compact (depth + 1)) ']' items rest := by
  cases items with
  | nil => rfl
  | cons item more =>
      rw [writeItems, writeMoreItems_compact]
      rfl

theorem writeMoreMembers_compact (depth : ℕ) (members : List (String × Json)) (rest : List Char) :
    writeMoreMembers .compact depth members rest =
      series (writeMember .compact (depth + 1)) '}' members rest := by
  induction members with
  | nil => rfl
  | cons member more ih =>
      rw [writeMoreMembers, ih]
      rfl

theorem writeMembers_compact (depth : ℕ) (members : List (String × Json)) (rest : List Char) :
    writeMembers .compact depth members rest =
      row (writeMember .compact (depth + 1)) '}' members rest := by
  cases members with
  | nil => rfl
  | cons member more =>
      rw [writeMembers, writeMoreMembers_compact]
      rfl

/-! ## Values -/

theorem separable_writeMember {depth : ℕ} {member : String × Json}
    (separable : Separable (write .compact depth) Exact member.2) :
    Separable (writeMember .compact depth) (fun other => Exact other.2) member := by
  intro other exact rest rest' closed closed' h
  obtain ⟨key, value⟩ := member
  obtain ⟨key', value'⟩ := other
  obtain ⟨rfl, hvalue⟩ := writeString_inj h
  obtain ⟨rfl, hrest⟩ := separable value' exact rest rest' closed closed' (List.cons.inj hvalue).2
  exact ⟨rfl, hrest⟩

theorem herald_eq {json other : Json} (exact : Exact json) (exact' : Exact other) {depth : ℕ}
    {rest rest' : List Char}
    (h : write .compact depth json rest = write .compact depth other rest') :
    json.herald = other.herald := by
  rw [← Option.some_inj, ← head?_write exact depth rest, ← head?_write exact' depth rest', h]

/-- The text of an exact value tells where it ends, and which value it is. -/
theorem separable_write {json : Json} (exact : Exact json) (depth : ℕ) :
    Separable (write .compact depth) Exact json := by
  -- The first character leaves only values of one kind to compare.
  induction exact generalizing depth with
  | null =>
      intro other exact' rest rest' _ _ h
      have hherald := herald_eq .null exact' h
      cases exact' with
      | null => exact ⟨rfl, List.append_cancel_left h⟩
      | _ => cases hherald
  | bool value =>
      intro other exact' rest rest' _ _ h
      have hherald := herald_eq (.bool value) exact' h
      cases exact' with
      | bool value' =>
          cases value <;> cases value'
          · exact ⟨rfl, List.append_cancel_left h⟩
          · cases h
          · cases h
          · exact ⟨rfl, List.append_cancel_left h⟩
      | _ => cases hherald
  | integer value =>
      intro other exact' rest rest' closed closed' h
      have hherald := herald_eq (.integer value) exact' h
      cases exact' with
      | integer value' =>
          obtain ⟨rfl, hrest⟩ := writeInteger_inj closed closed' h
          exact ⟨rfl, hrest⟩
      | _ => cases hherald
  | string text =>
      intro other exact' rest rest' _ _ h
      have hherald := herald_eq (.string text) exact' h
      cases exact' with
      | string text' =>
          obtain ⟨rfl, hrest⟩ := writeString_inj h
          exact ⟨rfl, hrest⟩
      | _ => cases hherald
  | @array items items_exact ih =>
      intro other exact' rest rest' _ _ h
      have hherald := herald_eq (.array items_exact) exact' h
      cases exact' with
      | @array items' items_exact' =>
          have hitems := (List.cons.inj h).2
          rw [writeItems_compact, writeItems_compact] at hitems
          have begun : ∀ item ∈ items ++ items', ∀ rest,
              (write .compact (depth + 1) item rest).head? ≠ some ']' := by
            intro item member
            rcases List.mem_append.mp member with member | member
            · exact head?_write_ne (items_exact item member) _
            · exact head?_write_ne (items_exact' item member) _
          obtain ⟨rfl, hrest⟩ := row_inj (by decide) (by decide)
            (fun item member => ih item member (depth + 1)) items_exact' begun hitems
          exact ⟨rfl, hrest⟩
      | _ => cases hherald
  | @object members members_exact ih =>
      intro other exact' rest rest' _ _ h
      have hherald := herald_eq (.object members_exact) exact' h
      cases exact' with
      | @object members' members_exact' =>
          have hmembers := (List.cons.inj h).2
          rw [writeMembers_compact, writeMembers_compact] at hmembers
          have begun (member : String × Json) (rest : List Char) :
              (writeMember .compact (depth + 1) member rest).head? ≠ some '}' := by
            obtain ⟨key, value⟩ := member
            exact fun hhead => absurd (Option.some.inj hhead) (by decide)
          obtain ⟨rfl, hrest⟩ := row_inj (by decide) (by decide)
            (fun member hmember => separable_writeMember (ih member hmember (depth + 1)))
            members_exact' (fun member _ => begun member) hmembers
          exact ⟨rfl, hrest⟩
      | _ => cases hherald

theorem compact_inj {json other : Json} (exact : Exact json) (exact' : Exact other)
    (h : json.compact = other.compact) : json = other :=
  (separable_write exact 0 other exact' [] [] closed_nil closed_nil (String.ofList_inj.mp h)).1

end Infiltration.Json
