import Infiltration.Proofs.Json.Text

/-! # Compact texts are read back

The compact text of a value is read as that value, if the value is nested no deeper than a reader goes
and has no numbers but integers the size of a word. -/

namespace Infiltration.Json

/-! ## Plain values -/

/-- A value that has lost nothing, has small integers only and is nested up to a height. -/
inductive Plain : ℕ → Json → Prop where
  | null (height : ℕ) : Plain height .null
  | bool (height : ℕ) (value : Bool) : Plain height (.bool value)
  | integer (height : ℕ) {value : ℤ} (small : value.natAbs < UInt64.size) :
      Plain height (.integer value)
  | string (height : ℕ) (text : String) : Plain height (.string text)
  | array {height : ℕ} {items : List Json} (items_plain : ∀ item ∈ items, Plain height item) :
      Plain (height + 1) (.array items)
  | object {height : ℕ} {members : List (String × Json)}
      (members_plain : ∀ member ∈ members, Plain height member.2) :
      Plain (height + 1) (.object members)

theorem Plain.exact {height : ℕ} {json : Json} (plain : Plain height json) : Exact json := by
  induction plain with
  | null => exact .null
  | bool _ value => exact .bool value
  | integer => exact .integer _
  | string _ text => exact .string text
  | array _ ih => exact .array ih
  | object _ ih => exact .object ih

theorem areHeld_iff {items : List Json} : areHeld items ↔ ∀ item ∈ items, item.isHeld := by
  induction items with
  | nil => simp [areHeld]
  | cons item more ih => simp [areHeld, ih]

theorem membersAreHeld_iff {members : List (String × Json)} :
    membersAreHeld members ↔ ∀ member ∈ members, member.2.isHeld := by
  induction members with
  | nil => simp [membersAreHeld]
  | cons member more ih =>
      obtain ⟨key, value⟩ := member
      simp [membersAreHeld, memberIsHeld, ih]

theorem Exact.isHeld {json : Json} (exact : Exact json) : json.isHeld := by
  induction exact with
  | array _ ih => exact areHeld_iff.mpr ih
  | object _ ih => exact membersAreHeld_iff.mpr ih
  | _ => rfl

/-! ## Numbers -/

/-- A text that goes on, if it does, as one does after a value. -/
def Ended (text : List Char) : Prop := ∀ c ∈ text.head?, c = ',' ∨ c = ']' ∨ c = '}'

theorem ended_cons {c : Char} (h : c = ',' ∨ c = ']' ∨ c = '}') (rest : List Char) :
    Ended (c :: rest) := by
  simpa [Ended] using h

theorem Ended.closed {rest : List Char} (ended : Ended rest) : Closed rest := by
  intro c hc
  rcases ended c hc with rfl | rfl | rfl <;> decide

/-- No number but zero has a leading zero. -/
theorem head?_toDigits_ne {n : ℕ} (h : n ≠ 0) : (Nat.toDigits 10 n).head? ≠ some '0' := by
  have hdigit : ∀ n < 10, n ≠ 0 → Nat.digitChar n ≠ '0' := by decide
  induction n using Nat.strongRecOn with
  | ind n ih =>
      by_cases small : n < 10
      · rw [Nat.toDigits_of_lt_base small]
        simpa using hdigit n small h
      · have hdiv := ih (n / 10) (by omega) (by omega)
        rw [Nat.toDigits_of_base_le (by decide) (by omega)]
        cases hdigits : Nat.toDigits 10 (n / 10) with
        | nil => exact absurd hdigits Nat.toDigits_ne_nil
        | cons c digits => simpa [hdigits] using hdiv

theorem readDigits_toDigits (n : ℕ) {rest : List Char} (closed : Closed rest) :
    readDigits (Nat.toDigits 10 n ++ rest) = some (Nat.toDigits 10 n, rest) := by
  have htake := takeWhile_toDigits n closed
  have hdrop : (Nat.toDigits 10 n ++ rest).dropWhile Char.isDigit = rest := by
    have happend : (Nat.toDigits 10 n ++ rest).takeWhile Char.isDigit ++
        (Nat.toDigits 10 n ++ rest).dropWhile Char.isDigit = Nat.toDigits 10 n ++ rest :=
      List.takeWhile_append_dropWhile
    rw [htake] at happend
    exact List.append_cancel_left happend
  have hne : (Nat.toDigits 10 n).isEmpty = false := by simp [Nat.toDigits_ne_nil]
  rw [readDigits, htake, hdrop, hne]
  rfl

theorem readWhole_toDigits (n : ℕ) {rest : List Char} (closed : Closed rest) :
    readWhole (Nat.toDigits 10 n ++ rest) = some (Nat.toDigits 10 n, rest) := by
  rw [readWhole, readDigits_toDigits n closed]
  split
  · rename_i c digits rest' h
    obtain ⟨hdigits, -⟩ := Prod.mk.inj (Option.some.inj h)
    by_cases hzero : n = 0
    · simp [hzero] at hdigits
    · exact absurd (by rw [hdigits]; rfl) (head?_toDigits_ne hzero)
  · rfl

theorem readUnsigned_toDigits (negative : Bool) (n : ℕ) {rest : List Char} (ended : Ended rest) :
    readUnsigned negative (Nat.toDigits 10 n ++ rest) =
      some (⟨negative, Nat.toDigits 10 n, [], []⟩, rest) := by
  have hfraction : readFraction rest = some ([], rest) := by
    cases rest with
    | nil => rfl
    | cons c rest => rcases ended c rfl with rfl | rfl | rfl <;> rfl
  have hexponent : readExponent rest = some ([], rest) := by
    cases rest with
    | nil => rfl
    | cons c rest => rcases ended c rfl with rfl | rfl | rfl <;> rfl
  simp [readUnsigned, readWhole_toDigits n ended.closed, hfraction, hexponent]

theorem readNumeral_toDigits (n : ℕ) (rest : List Char) :
    readNumeral (Nat.toDigits 10 n ++ rest) = readUnsigned false (Nat.toDigits 10 n ++ rest) := by
  obtain ⟨c, hhead, hdigit⟩ := head?_toDigits n rest
  cases h : Nat.toDigits 10 n ++ rest with
  | nil => simp [h] at hhead
  | cons d text =>
      rw [h, List.head?_cons, Option.some.injEq] at hhead
      subst hhead
      unfold readNumeral
      split
      · rename_i heq
        obtain ⟨rfl, -⟩ := List.cons.inj heq
        exact absurd hdigit (by decide)
      · rfl

theorem Numeral.toJson_of_integer? {numeral : Numeral} {value : ℤ}
    (h : numeral.integer? = some value) (small : value.natAbs < UInt64.size) :
    numeral.toJson = .integer value := by
  simp [toJson, h, small]

/-- An integer that fits a word is read back from its digits. -/
theorem readNumeral_writeInteger {value : ℤ} (small : value.natAbs < UInt64.size)
    {rest : List Char} (ended : Ended rest) :
    ∃ numeral, readNumeral (writeInteger value ++ rest) = some (numeral, rest) ∧
      numeral.toJson = .integer value := by
  cases value with
  | ofNat n =>
      have hvalue : Numeral.natOf (Nat.toDigits 10 n) = n := Nat.ofDigitChars_ten_toDigits
      rw [writeInteger, readNumeral_toDigits, readUnsigned_toDigits false n ended]
      exact ⟨_, rfl, Numeral.toJson_of_integer? (by simp [Numeral.integer?, hvalue]) small⟩
  | negSucc n =>
      have hvalue : Numeral.natOf (Nat.toDigits 10 (n + 1)) = n + 1 :=
        Nat.ofDigitChars_ten_toDigits
      rw [writeInteger, List.cons_append, readNumeral, readUnsigned_toDigits true (n + 1) ended]
      refine ⟨_, rfl, Numeral.toJson_of_integer? ?_ small⟩
      simp [Numeral.integer?, hvalue, Int.negSucc_eq]

/-! ## Lengths -/

theorem lt_length_append {word : List Char} (h : word ≠ []) (rest : List Char) :
    rest.length < (word ++ rest).length := by
  have hpos := List.length_pos_iff.mpr h
  rw [List.length_append]
  omega

theorem lt_length_series {α : Type} {part : α → List Char → List Char} {stop : Char}
    {parts : List α} (grows : ∀ first ∈ parts, ∀ rest, rest.length < (part first rest).length)
    (rest : List Char) : rest.length < (series part stop parts rest).length := by
  induction parts with
  | nil => simp [series]
  | cons first more ih =>
      have hmore := ih fun other member => grows other (List.mem_cons_of_mem _ member)
      have hfirst := grows first List.mem_cons_self (series part stop more rest)
      rw [series, List.length_cons]
      omega

theorem lt_length_row {α : Type} {part : α → List Char → List Char} {stop : Char}
    {parts : List α} (grows : ∀ first ∈ parts, ∀ rest, rest.length < (part first rest).length)
    (rest : List Char) : rest.length < (row part stop parts rest).length := by
  cases parts with
  | nil => simp [row]
  | cons first more =>
      have hmore : rest.length < (series part stop more rest).length :=
        lt_length_series (fun other member => grows other (.tail first member)) rest
      have hfirst := grows first List.mem_cons_self (series part stop more rest)
      rw [row]
      omega

theorem length_writeChars (chars rest : List Char) : rest.length ≤ (writeChars chars rest).length := by
  induction chars with
  | nil => exact Nat.le_refl _
  | cons c chars ih =>
      rw [writeChars, List.length_append]
      omega

theorem lt_length_writeString (text : String) (rest : List Char) :
    rest.length + 1 < (writeString text rest).length := by
  have h := length_writeChars text.toList ('"' :: rest)
  rw [List.length_cons] at h
  rw [writeString, List.length_cons]
  omega

theorem lt_length_writeMember {depth : ℕ} {member : String × Json}
    (grows : ∀ rest, rest.length < (write .compact depth member.2 rest).length)
    (rest : List Char) : rest.length < (writeMember .compact depth member rest).length := by
  obtain ⟨key, value⟩ := member
  have hvalue : rest.length < (write .compact depth value rest).length := grows rest
  have hkey := lt_length_writeString key (':' :: write .compact depth value rest)
  rw [List.length_cons] at hkey
  change rest.length < (writeString key (':' :: write .compact depth value rest)).length
  omega

/-- No value has an empty text. -/
theorem lt_length_write {json : Json} (exact : Exact json) (depth : ℕ) (rest : List Char) :
    rest.length < (write .compact depth json rest).length := by
  induction exact generalizing depth rest with
  | null => exact lt_length_append (by decide) rest
  | bool value => cases value <;> exact lt_length_append (by decide) rest
  | integer value =>
      rw [write]
      apply lt_length_append
      cases value <;> simp [writeInteger, Nat.toDigits_ne_nil]
  | string text =>
      have h := lt_length_writeString text rest
      rw [write]
      omega
  | array _ ih =>
      rw [write, writeItems_compact, List.length_cons]
      exact Nat.lt_succ_of_lt (lt_length_row (fun item member => ih item member (depth + 1)) rest)
  | object _ ih =>
      rw [write, writeMembers_compact, List.length_cons]
      exact Nat.lt_succ_of_lt (lt_length_row
        (fun member hmember => lt_length_writeMember (ih member hmember (depth + 1))) rest)

/-! ## Rows -/

theorem skipBlanks_cons {c : Char} (h : isBlank c = false) (rest : List Char) :
    skipBlanks (c :: rest) = c :: rest := by
  simp [skipBlanks, h]

/-- A value whose text is read back with enough of an allowance, whatever comes after it. -/
def ReadBack (depth : ℕ) (json : Json) : Prop :=
  ∀ allowance rest, Ended rest →
    (write .compact depth json rest).length ≤ rest.length + allowance →
      readValue depth allowance (write .compact depth json rest) = some (json, rest)

/-- A reader of many parts that reads the text of one, and then goes on after a comma and ends at the
mark. -/
structure Steps {α β : Type} (part : α → List Char → List Char) (stop : Char)
    (many : ℕ → List Char → Option (List β × List Char)) (value : α → β) (first : α) : Prop where
  stops : ∀ allowance rest,
    (part first (stop :: rest)).length ≤ (stop :: rest).length + allowance →
      many (allowance + 1) (part first (stop :: rest)) = some ([value first], rest)
  goes : ∀ allowance rest,
    (part first (',' :: rest)).length ≤ (',' :: rest).length + allowance →
      many (allowance + 1) (part first (',' :: rest)) =
        (many allowance rest).map fun (more, rest) => (value first :: more, rest)

/-- A reader that reads every part of a row reads the row. -/
theorem read_row {α β : Type} {part : α → List Char → List Char} {stop : Char}
    {many : ℕ → List Char → Option (List β × List Char)} {value : α → β} {first : α} {more : List α}
    (grows : ∀ other ∈ first :: more, ∀ rest, rest.length < (part other rest).length)
    (steps : ∀ other ∈ first :: more, Steps part stop many value other) {allowance : ℕ}
    {rest : List Char}
    (enough : (row part stop (first :: more) rest).length ≤ rest.length + allowance) :
    many allowance (row part stop (first :: more) rest) =
      some ((first :: more).map value, rest) := by
  induction more generalizing first allowance with
  | nil =>
      have hgrows := grows first List.mem_cons_self (stop :: rest)
      simp only [row, series, List.length_cons] at enough hgrows
      obtain ⟨allowance, rfl⟩ : ∃ less, allowance = less + 1 := ⟨allowance - 1, by omega⟩
      exact (steps first List.mem_cons_self).stops allowance rest (by rw [List.length_cons]; omega)
  | cons next more ih =>
      have htext : row part stop (first :: next :: more) rest =
          part first (',' :: row part stop (next :: more) rest) := rfl
      have hgrows := grows first List.mem_cons_self (',' :: row part stop (next :: more) rest)
      have hmore : rest.length < (row part stop (next :: more) rest).length :=
        lt_length_row (fun other member => grows other (.tail _ member)) rest
      rw [htext] at enough ⊢
      rw [List.length_cons] at hgrows
      obtain ⟨allowance, rfl⟩ : ∃ less, allowance = less + 1 := ⟨allowance - 1, by omega⟩
      rw [(steps first List.mem_cons_self).goes allowance _ (by rw [List.length_cons]; omega),
        ih (fun other member => grows other (.tail _ member))
          (fun other member => steps other (.tail _ member)) (by omega)]
      rfl

theorem steps_items {depth : ℕ} {item : Json} (back : ReadBack depth item) :
    Steps (write .compact depth) ']' (readItems depth) id item where
  stops allowance rest enough := by
    have hitem := back allowance (']' :: rest) (ended_cons (by simp) rest) enough
    simp only [readItems, hitem, Option.bind_eq_bind, Option.bind_some]
    rfl
  goes allowance rest enough := by
    have hitem := back allowance (',' :: rest) (ended_cons (by simp) rest) enough
    simp only [readItems, hitem, Option.bind_eq_bind, Option.bind_some, Option.map_eq_bind]
    rfl

theorem readMembers_key (depth allowance : ℕ) (key : String) (text : List Char) :
    readMembers depth (allowance + 1) (writeString key (':' :: text)) =
      (readValue depth allowance text).bind fun (value, rest) =>
        match skipBlanks rest with
        | ',' :: rest =>
          (readMembers depth allowance rest).map fun (more, rest) => ((some key, value) :: more, rest)
        | '}' :: rest => some ([(some key, value)], rest)
        | _ => none := by
  have hkey : readString (writeChars key.toList ('"' :: ':' :: text)) = some (some key, ':' :: text) :=
    readString_writeString key (':' :: text)
  have hcolon : skipBlanks (':' :: text) = ':' :: text := skipBlanks_cons (by decide) text
  rw [readMembers, writeString, skipBlanks_cons (by decide)]
  simp only [hkey, hcolon, Option.bind_eq_bind, Option.bind_some, Option.map_eq_bind]
  rfl

theorem steps_members {depth : ℕ} {member : String × Json} (back : ReadBack depth member.2) :
    Steps (writeMember .compact depth) '}' (readMembers depth)
      (fun member => (some member.1, member.2)) member := by
  obtain ⟨key, value⟩ := member
  have htext (rest : List Char) : writeMember .compact depth (key, value) rest =
      writeString key (':' :: write .compact depth value rest) := rfl
  have hvalue (allowance : ℕ) (rest : List Char) (ended : Ended rest)
      (enough : (writeMember .compact depth (key, value) rest).length ≤ rest.length + allowance) :
      readValue depth allowance (write .compact depth value rest) = some (value, rest) := by
    have hkey := lt_length_writeString key (':' :: write .compact depth value rest)
    rw [htext] at enough
    rw [List.length_cons] at hkey
    exact back allowance rest ended (by change (write .compact depth value rest).length ≤ _; omega)
  refine ⟨?_, ?_⟩
  · intro allowance rest enough
    rw [htext, readMembers_key, hvalue allowance _ (ended_cons (by simp) rest) enough]
    rfl
  · intro allowance rest enough
    rw [htext, readMembers_key, hvalue allowance _ (ended_cons (by simp) rest) enough]
    rfl

/-! ## Values -/

theorem isBlank_iff {c : Char} : isBlank c = true ↔ c = ' ' ∨ c = '\t' ∨ c = '\n' ∨ c = '\r' := by
  simp [isBlank, or_assoc]

theorem isBlank_of_announced {json : Json} (exact : Exact json) {c : Char}
    (h : announced c = json.herald) : isBlank c = false := by
  by_contra hblank
  rw [Bool.not_eq_false, isBlank_iff] at hblank
  rcases hblank with rfl | rfl | rfl | rfl <;> cases exact <;> cases h

theorem skipBlanks_write {json : Json} (exact : Exact json) (depth : ℕ) (rest : List Char) :
    skipBlanks (write .compact depth json rest) = write .compact depth json rest := by
  have hhead := head?_write exact depth rest
  cases htext : write .compact depth json rest with
  | nil => rfl
  | cons c text =>
      rw [htext, List.head?_cons, Option.map_some, Option.some.injEq] at hhead
      exact skipBlanks_cons (isBlank_of_announced exact hhead) text

theorem ofMembers_some (members : List (String × Json)) :
    ofMembers (members.map fun member => (some member.1, member.2)) = .object members := by
  have h : (members.map fun member => (some member.1, member.2)).mapM
      (fun member : Option String × Json => member.1.map fun key => (key, member.2)) =
        some members := by
    induction members with
    | nil => rfl
    | cons member more ih => simp [ih]
  simp only [ofMembers, h]

theorem readValue_integer (depth allowance : ℕ) (value : ℤ) (rest : List Char) :
    readValue depth (allowance + 1) (writeInteger value ++ rest) =
      (readNumeral (writeInteger value ++ rest)).map fun (numeral, rest) =>
        (numeral.toJson, rest) := by
  have hhead := head?_write (.integer value) depth rest
  have hblanks := skipBlanks_write (.integer value) depth rest
  simp only [write] at hhead hblanks
  rw [readValue, hblanks]
  split <;> simp_all [announced, herald]

/-- A text is not empty, so there is an allowance for its first step. -/
theorem readBack_of_succ {depth : ℕ} {json : Json} (exact : Exact json)
    (h : ∀ allowance rest, Ended rest →
      (write .compact depth json rest).length ≤ rest.length + (allowance + 1) →
        readValue depth (allowance + 1) (write .compact depth json rest) = some (json, rest)) :
    ReadBack depth json := by
  intro allowance rest ended enough
  have hgrows := lt_length_write exact depth rest
  obtain ⟨allowance, rfl⟩ : ∃ less, allowance = less + 1 := ⟨allowance - 1, by omega⟩
  exact h allowance rest ended enough

section

variable {depth : ℕ} (shallow : depth < deepest)

include shallow

theorem readBack_array {items : List Json} (exact : ∀ item ∈ items, Exact item)
    (back : ∀ item ∈ items, ReadBack (depth + 1) item) : ReadBack depth (.array items) := by
  apply readBack_of_succ (.array exact)
  intro allowance rest _ enough
  rw [write, writeItems_compact] at enough ⊢
  cases items with
  | nil =>
      change some (within depth (.array []), rest) = _
      rw [within, if_pos shallow]
  | cons item more =>
      have hrow : readItems (depth + 1) allowance
          (row (write .compact (depth + 1)) ']' (item :: more) rest) =
            some ((item :: more).map id, rest) := by
        apply read_row
        · exact fun other member => lt_length_write (exact other member) _
        · exact fun other member => steps_items (back other member)
        · rw [List.length_cons] at enough
          omega
      have hitem := exact item List.mem_cons_self
      have hblanks : skipBlanks (row (write .compact (depth + 1)) ']' (item :: more) rest) =
          row (write .compact (depth + 1)) ']' (item :: more) rest :=
        skipBlanks_write hitem (depth + 1) _
      have hbegun : (row (write .compact (depth + 1)) ']' (item :: more) rest).head? ≠ some ']' :=
        head?_write_ne hitem (depth + 1) _
      rw [readValue, skipBlanks_cons (by decide)]
      simp only [hblanks]
      split
      · rename_i heq
        exact absurd (heq ▸ rfl) hbegun
      · rw [hrow, List.map_id, Option.map_some, within, if_pos shallow]

theorem readBack_object {members : List (String × Json)}
    (exact : ∀ member ∈ members, Exact member.2)
    (back : ∀ member ∈ members, ReadBack (depth + 1) member.2) :
    ReadBack depth (.object members) := by
  apply readBack_of_succ (.object exact)
  intro allowance rest _ enough
  rw [write, writeMembers_compact] at enough ⊢
  cases members with
  | nil =>
      change some (within depth (.object []), rest) = _
      rw [within, if_pos shallow]
  | cons member more =>
      have hrow : readMembers (depth + 1) allowance
          (row (writeMember .compact (depth + 1)) '}' (member :: more) rest) =
            some ((member :: more).map fun member => (some member.1, member.2), rest) := by
        apply read_row
        · exact fun other hother => lt_length_writeMember (lt_length_write (exact other hother) _)
        · exact fun other hother => steps_members (back other hother)
        · rw [List.length_cons] at enough
          omega
      obtain ⟨key, value⟩ := member
      have hblanks :
          skipBlanks (row (writeMember .compact (depth + 1)) '}' ((key, value) :: more) rest) =
            row (writeMember .compact (depth + 1)) '}' ((key, value) :: more) rest :=
        skipBlanks_cons (by decide) _
      rw [readValue, skipBlanks_cons (by decide)]
      simp only [hblanks]
      split
      · rename_i heq
        exact absurd (List.cons.inj heq).1 (by decide)
      · rw [hrow, Option.map_some, ofMembers_some, within, if_pos shallow]

end

/-- What is plain and does not stand too deep is read back from its text. -/
theorem Plain.readBack {height : ℕ} {json : Json} (plain : Plain height json) {depth : ℕ}
    (shallow : depth + height ≤ deepest) : ReadBack depth json := by
  induction plain generalizing depth with
  | null => exact readBack_of_succ .null fun allowance rest _ _ => rfl
  | bool _ value =>
      apply readBack_of_succ (.bool value)
      intro allowance rest _ _
      cases value <;> rfl
  | integer _ small =>
      apply readBack_of_succ (.integer _)
      intro allowance rest ended _
      obtain ⟨numeral, hread, hvalue⟩ := readNumeral_writeInteger small ended
      simp only [write, readValue_integer, hread, Option.map_some, hvalue]
  | string _ text =>
      apply readBack_of_succ (.string text)
      intro allowance rest _ _
      rw [write, writeString, readValue, skipBlanks_cons (by decide)]
      simp only [readString_writeString, Option.map_some, ofText]
  | array items_plain ih =>
      exact readBack_array (by omega) (fun item member => (items_plain item member).exact)
        fun item member => ih item member (by omega)
  | object members_plain ih =>
      exact readBack_object (by omega) (fun member hmember => (members_plain member hmember).exact)
        fun member hmember => ih member hmember (by omega)

/-- What is plain is what its text is read as. -/
theorem parse_compact {json : Json} (plain : Plain deepest json) :
    parse json.compact = some json := by
  have hlength : (compact json).length = (write .compact 0 json []).length := by
    rw [compact, String.length_ofList]
  have hread : readValue 0 ((write .compact 0 json []).length + 1) (write .compact 0 json []) =
      some (json, []) := by
    apply plain.readBack (by omega)
    · simp [Ended]
    · simp
  rw [parse, hlength, compact, String.toList_ofList, hread]
  rfl

end Infiltration.Json
