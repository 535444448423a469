import Infiltration.Script.Line
import Mathlib.Data.List.Basic

/-! # The grammar of lines

A line spells a command if it is, character for character, one of the statements that stand for the
command. The nine forms read what is spelled and nothing else, and of no line do two of them read the
whole, so it does not matter in which order they are tried. -/

namespace Infiltration.Script

/-! ## The statements -/

/-- The characters of ids. -/
def IdChar (c : Char) : Prop :=
  ('A' ≤ c ∧ c ≤ 'Z') ∨ ('a' ≤ c ∧ c ≤ 'z') ∨ ('0' ≤ c ∧ c ≤ '9') ∨ c = '_' ∨ c = ':' ∨ c = '-'

instance (c : Char) : Decidable (IdChar c) := inferInstanceAs (Decidable (_ ∨ _))

def IsId (id : String) : Prop := id.toList ≠ [] ∧ ∀ c ∈ id.toList, IdChar c

instance (id : String) : Decidable (IsId id) :=
  letI := List.decidableBAll IdChar id.toList
  inferInstanceAs (Decidable (_ ∧ _))

def inQuotes (text : String) : List Char := '"' :: text.toList ++ ['"']

/-- Digits that stand for a number, perhaps with zeros in front. -/
structure Numeral (digits : List Char) (value : UInt64) : Prop where
  ne_nil : digits ≠ []
  digit : ∀ c ∈ digits, '0' ≤ c ∧ c ≤ '9'
  value_eq : Nat.ofDigitChars 10 digits 0 = value.toNat

namespace Command

/-- A line is a statement of a command. -/
def Spelled (line : List Char) : Command → Prop
  | disableCamera camera none =>
    IsId camera ∧ line = "camera(".toList ++ inQuotes camera ++ ").disable()".toList
  | disableCamera camera (some ticks) =>
    IsId camera ∧ ∃ digits, Numeral digits ticks ∧
      line = "camera(".toList ++ inQuotes camera ++ ").disable(".toList ++ digits ++ ")".toList
  | enableCamera camera =>
    IsId camera ∧ line = "camera(".toList ++ inQuotes camera ++ ").enable()".toList
  | delayAlarm ticks =>
    ∃ digits, Numeral digits ticks ∧ line = "alarm().delay(".toList ++ digits ++ ")".toList
  | openDoor door => IsId door ∧ line = "door(".toList ++ inQuotes door ++ ").open()".toList
  | closeDoor door => IsId door ∧ line = "door(".toList ++ inQuotes door ++ ").close()".toList
  | retargetTurret turret target =>
    IsId turret ∧ IsId target ∧
      line = "turret(".toList ++ inQuotes turret ++ ").retarget(".toList ++ inQuotes target ++
        ")".toList
  | tagDevice device tag =>
    IsId device ∧ IsId tag ∧
      line = "device(".toList ++ inQuotes device ++ ").tag(".toList ++ inQuotes tag ++ ")".toList
  | wait ticks => ∃ digits, Numeral digits ticks ∧ line = "wait(".toList ++ digits ++ ")".toList
  | log message =>
    '"' ∉ message.toList ∧ line = "log(".toList ++ inQuotes message ++ ")".toList

/-- The place of the form that reads such commands. -/
def place : Command → ℕ
  | disableCamera _ _ => 0
  | enableCamera _ => 1
  | delayAlarm _ => 2
  | openDoor _ => 3
  | closeDoor _ => 4
  | retargetTurret _ _ => 5
  | tagDevice _ _ => 6
  | wait _ => 7
  | log _ => 8

end Command

namespace Line

variable {text line rest : List Char} {command : Command}

/-! ## Parts of a line -/

theorem isDigit_iff {c : Char} : c.isDigit = true ↔ '0' ≤ c ∧ c ≤ '9' := by
  simp [Char.isDigit, Char.le_def]

theorem isIdChar_iff {c : Char} : isIdChar c = true ↔ IdChar c := by
  have hupper : c.isUpper = true ↔ 'A' ≤ c ∧ c ≤ 'Z' := decide_eq_true_iff
  have hlower : c.isLower = true ↔ 'a' ≤ c ∧ c ≤ 'z' := by
    change (decide ('a' ≤ c) && decide (c ≤ 'z')) = true ↔ _
    rw [Bool.and_eq_true, decide_eq_true_iff, decide_eq_true_iff]
  change ((c.isUpper || c.isLower || c.isDigit) || decide (c = '_') || decide (c = ':') ||
    decide (c = '-')) = true ↔ _
  simp only [Bool.or_eq_true, hupper, hlower, isDigit_iff, decide_eq_true_iff, IdChar, or_assoc]

theorem expect_eq_some : expect text line = some rest ↔ line = text ++ rest := by
  unfold expect
  constructor
  · intro h
    split at h
    · rename_i starts
      obtain ⟨back, rfl⟩ := List.isPrefixOf_iff_prefix.mp starts
      simpa using h
    · cases h
  · rintro rfl
    simp

/-- A text whose characters are all of a kind ends where the first other one stands. -/
theorem takeWhile_dropWhile {p : Char → Bool} (next : Char) (rest : List Char)
    (inside : ∀ c ∈ text, p c = true) (outside : p next = false) :
    (text ++ next :: rest).takeWhile p = text ∧ (text ++ next :: rest).dropWhile p = next :: rest := by
  rw [List.takeWhile_append_of_pos inside, List.dropWhile_append_of_pos inside]
  simp [outside]

/-- The text between two quotes has none itself. -/
theorem quoted_eq_some :
    quoted line = some (text, rest) ↔ '"' ∉ text ∧ line = '"' :: text ++ '"' :: rest := by
  constructor
  · intro h
    unfold quoted at h
    split at h
    · rename_i inner
      split at h
      · rename_i first back hdrop
        cases h
        have hfirst := List.head?_dropWhile_not (fun c => decide (c ≠ '"')) inner
        have hinside := List.all_takeWhile (p := fun c => decide (c ≠ '"')) (l := inner)
        have hinner := List.takeWhile_append_dropWhile (p := fun c => decide (c ≠ '"')) (l := inner)
        rw [hdrop] at hfirst hinner
        obtain rfl : first = '"' := by simpa using hfirst
        refine ⟨fun member => ?_, ?_⟩
        · simpa using List.all_eq_true.mp hinside '"' member
        · rw [List.cons_append, hinner]
      · cases h
    · cases h
  · rintro ⟨inside, rfl⟩
    have hinside : ∀ c ∈ text, decide (c ≠ '"') = true := by
      intro c member
      simpa using fun h : c = '"' => inside (h ▸ member)
    obtain ⟨htake, hdrop⟩ := takeWhile_dropWhile '"' rest hinside (by simp)
    simp only [quoted, List.cons_append, htake, hdrop]

theorem message_eq_some {message : String} :
    Line.message line = some (message, rest) ↔
      '"' ∉ message.toList ∧ line = inQuotes message ++ rest := by
  simp only [Line.message, Option.bind_eq_bind, Option.bind_eq_some_iff, Prod.exists,
    quoted_eq_some, Option.some.injEq, Prod.mk.injEq]
  constructor
  · rintro ⟨text, back, ⟨inside, rfl⟩, rfl, rfl⟩
    simp [inside, inQuotes]
  · rintro ⟨inside, rfl⟩
    exact ⟨message.toList, rest, ⟨inside, by simp [inQuotes]⟩, by simp, rfl⟩

theorem not_mem_of_isId {id : String} (named : IsId id) : '"' ∉ id.toList := fun member => by
  have h := isIdChar_iff.mpr (named.2 '"' member)
  revert h
  decide

theorem ident_eq_some {id : String} :
    ident line = some (id, rest) ↔ IsId id ∧ line = inQuotes id ++ rest := by
  simp only [ident, Option.bind_eq_bind, Option.bind_eq_some_iff, Prod.exists, quoted_eq_some]
  constructor
  · rintro ⟨text, back, ⟨inside, rfl⟩, h⟩
    split at h
    · rename_i valid
      cases h
      simp only [Bool.and_eq_true, Bool.not_eq_true', List.isEmpty_eq_false_iff, List.all_eq_true,
        isIdChar_iff] at valid
      exact ⟨⟨by simpa using valid.1, by simpa using valid.2⟩, by simp [inQuotes]⟩
    · cases h
  · rintro ⟨named, rfl⟩
    refine ⟨id.toList, rest, ⟨not_mem_of_isId named, by simp [inQuotes]⟩, ?_⟩
    have valid : (!id.toList.isEmpty && id.toList.all isIdChar) = true := by
      simp only [Bool.and_eq_true, Bool.not_eq_true', List.isEmpty_eq_false_iff, List.all_eq_true,
        isIdChar_iff]
      exact named
    rw [if_pos valid, String.ofList_toList]

/-- A number before a closing bracket is the whole run of digits. -/
theorem amount_eq_some {ticks : UInt64} :
    amount line = some (ticks, ')' :: rest) ↔
      ∃ digits, Numeral digits ticks ∧ line = digits ++ ')' :: rest := by
  constructor
  · intro h
    simp only [amount] at h
    split at h
    · rename_i valid
      simp only [Bool.and_eq_true, Bool.not_eq_true', List.isEmpty_eq_false_iff,
        decide_eq_true_eq] at valid
      simp only [Option.some.injEq, Prod.mk.injEq] at h
      obtain ⟨rfl, hrest⟩ := h
      have hdigits := List.all_eq_true.mp (List.all_takeWhile (p := Char.isDigit) (l := line))
      refine ⟨line.takeWhile Char.isDigit, ⟨valid.1, ?_, ?_⟩, ?_⟩
      · exact fun c member => isDigit_iff.mp (hdigits c member)
      · rw [UInt64.toNat_ofNat_of_lt' valid.2]
      · rw [← hrest, List.takeWhile_append_dropWhile]
    · cases h
  · rintro ⟨digits, numeral, rfl⟩
    have hdigits : ∀ c ∈ digits, c.isDigit = true := fun c member =>
      isDigit_iff.mpr (numeral.digit c member)
    obtain ⟨htake, hdrop⟩ := takeWhile_dropWhile ')' rest hdigits (by decide)
    have valid : (!digits.isEmpty && decide (Nat.ofDigitChars 10 digits 0 < UInt64.size)) = true := by
      simp [numeral.ne_nil, numeral.value_eq, ticks.toNat_lt_size]
    simp only [amount, htake, hdrop]
    rw [if_pos valid, numeral.value_eq, UInt64.ofNat_toNat]

/-- A number does not begin with a bracket. -/
theorem expect_of_numeral {digits : List Char} {ticks : UInt64} (numeral : Numeral digits ticks) :
    expect ")".toList (digits ++ rest) = none := by
  rw [Option.eq_none_iff_forall_ne_some]
  intro back h
  rw [expect_eq_some] at h
  cases digits with
  | nil => exact numeral.ne_nil rfl
  | cons c digits =>
      obtain ⟨rfl, -⟩ := List.cons.inj h
      exact absurd (numeral.digit ')' List.mem_cons_self) (by decide)

/-! ## The nine forms -/

theorem readBy_eq_some {form : Reader Command} :
    readBy form line = some command ↔ form line = some (command, []) := by
  unfold readBy
  split <;> simp_all

section Shapes

variable {opening middle closing : List Char}

/-- A fixed text with an id inside. -/
def aroundId (opening closing : List Char) (make : String → Command) : Reader Command := fun line => do
  let line ← expect opening line
  let (id, line) ← ident line
  let line ← expect closing line
  some (make id, line)

theorem readBy_aroundId (make : String → Command) :
    readBy (aroundId opening closing make) line = some command ↔
      ∃ id, IsId id ∧ line = opening ++ inQuotes id ++ closing ∧ make id = command := by
  simp only [readBy_eq_some, aroundId, Option.bind_eq_bind, Option.bind_eq_some_iff,
    expect_eq_some, ident_eq_some, Prod.exists, Option.some.injEq, Prod.mk.injEq]
  constructor
  · rintro ⟨_, rfl, id, _, ⟨named, rfl⟩, _, rfl, rfl, rfl⟩
    exact ⟨id, named, by simp, rfl⟩
  · rintro ⟨id, named, rfl, rfl⟩
    exact ⟨_, List.append_assoc .., id, _, ⟨named, rfl⟩, [], by simp⟩

/-- A fixed text with two ids inside. -/
def aroundIds (opening middle closing : List Char) (make : String → String → Command) :
    Reader Command := fun line => do
  let line ← expect opening line
  let (first, line) ← ident line
  let line ← expect middle line
  let (second, line) ← ident line
  let line ← expect closing line
  some (make first second, line)

theorem readBy_aroundIds (make : String → String → Command) :
    readBy (aroundIds opening middle closing make) line = some command ↔
      ∃ first second, IsId first ∧ IsId second ∧
        line = opening ++ inQuotes first ++ middle ++ inQuotes second ++ closing ∧
          make first second = command := by
  simp only [readBy_eq_some, aroundIds, Option.bind_eq_bind, Option.bind_eq_some_iff,
    expect_eq_some, ident_eq_some, Prod.exists, Option.some.injEq, Prod.mk.injEq]
  constructor
  · rintro ⟨_, rfl, first, _, ⟨named, rfl⟩, _, rfl, second, _, ⟨named', rfl⟩, _, rfl, rfl, rfl⟩
    exact ⟨first, second, named, named', by simp, rfl⟩
  · rintro ⟨first, second, named, named', rfl, rfl⟩
    have hline : opening ++ inQuotes first ++ middle ++ inQuotes second ++ closing =
        opening ++ (inQuotes first ++ (middle ++ (inQuotes second ++ closing))) := by simp
    exact ⟨_, hline, first, _, ⟨named, rfl⟩, _, rfl, second, _, ⟨named', rfl⟩, [], by simp⟩

/-- A fixed text and a number in brackets. -/
def withAmount (opening : List Char) (make : UInt64 → Command) : Reader Command := fun line => do
  let line ← expect opening line
  let (ticks, line) ← amount line
  let line ← expect ")".toList line
  some (make ticks, line)

theorem readBy_withAmount (make : UInt64 → Command) :
    readBy (withAmount opening make) line = some command ↔
      ∃ ticks, (∃ digits, Numeral digits ticks ∧ line = opening ++ digits ++ ")".toList) ∧
        make ticks = command := by
  simp only [readBy_eq_some, withAmount, Option.bind_eq_bind, Option.bind_eq_some_iff,
    expect_eq_some, Prod.exists, Option.some.injEq, Prod.mk.injEq]
  constructor
  · rintro ⟨_, rfl, ticks, _, hticks, _, rfl, rfl, rfl⟩
    obtain ⟨digits, numeral, rfl⟩ := amount_eq_some.mp hticks
    exact ⟨ticks, ⟨digits, numeral, by simp⟩, rfl⟩
  · rintro ⟨ticks, ⟨digits, numeral, rfl⟩, rfl⟩
    exact ⟨_, List.append_assoc .., ticks, _, amount_eq_some.mpr ⟨digits, numeral, rfl⟩, [], rfl,
      rfl, rfl⟩

end Shapes

theorem readBy_disableCamera :
    readBy disableCamera line = some command ↔
      ∃ camera duration, (Command.disableCamera camera duration).Spelled line ∧
        .disableCamera camera duration = command := by
  simp only [readBy_eq_some, disableCamera, Option.bind_eq_bind, Option.bind_eq_some_iff,
    expect_eq_some, ident_eq_some, Prod.exists]
  constructor
  · rintro ⟨_, rfl, camera, _, ⟨named, rfl⟩, _, rfl, h⟩
    split at h
    · rename_i closed
      rw [expect_eq_some] at closed
      simp only [Option.some.injEq, Prod.mk.injEq] at h
      obtain ⟨rfl, rfl⟩ := h
      exact ⟨camera, none, ⟨named, by simp [closed]⟩, rfl⟩
    · simp only [Option.bind_eq_some_iff, expect_eq_some, Prod.exists, Option.some.injEq,
        Prod.mk.injEq] at h
      obtain ⟨ticks, _, hticks, _, rfl, rfl, rfl⟩ := h
      obtain ⟨digits, numeral, rfl⟩ := amount_eq_some.mp hticks
      exact ⟨camera, some ticks, ⟨named, digits, numeral, by simp⟩, rfl⟩
  · rintro ⟨camera, _ | ticks, h, rfl⟩
    · obtain ⟨named, rfl⟩ := h
      exact ⟨_, List.append_assoc .., camera, _, ⟨named, rfl⟩, ")".toList, rfl, by simp [expect]⟩
    · obtain ⟨named, digits, numeral, rfl⟩ := h
      have hline : "camera(".toList ++ inQuotes camera ++ ").disable(".toList ++ digits ++ ")".toList =
          "camera(".toList ++ (inQuotes camera ++ (").disable(".toList ++ (digits ++ [')']))) := by
        simp
      refine ⟨_, hline, camera, _, ⟨named, rfl⟩, _, rfl, ?_⟩
      rw [expect_of_numeral numeral, amount_eq_some.mpr ⟨digits, numeral, rfl⟩]
      rfl

theorem readBy_log :
    readBy log line = some command ↔
      ∃ message, (Command.log message).Spelled line ∧ .log message = command := by
  simp only [readBy_eq_some, log, Option.bind_eq_bind, Option.bind_eq_some_iff,
    expect_eq_some, message_eq_some, Prod.exists, Option.some.injEq, Prod.mk.injEq]
  constructor
  · rintro ⟨_, rfl, text, _, ⟨inside, rfl⟩, _, rfl, rfl, rfl⟩
    exact ⟨text, ⟨inside, by simp⟩, rfl⟩
  · rintro ⟨text, ⟨inside, rfl⟩, rfl⟩
    exact ⟨_, List.append_assoc .., text, _, ⟨inside, rfl⟩, [], by simp⟩

theorem readBy_form {place : ℕ} {form : Reader Command} (h : forms[place]? = some form) :
    readBy form line = some command ↔ command.Spelled line ∧ command.place = place := by
  rcases place with _ | _ | _ | _ | _ | _ | _ | _ | _ | place
  · cases h
    rw [readBy_disableCamera]
    cases command <;> simp [Command.place]
  · cases h
    refine (readBy_aroundId .enableCamera).trans ?_
    cases command <;> simp [Command.place, Command.Spelled]
  · cases h
    refine (readBy_withAmount .delayAlarm).trans ?_
    cases command <;> simp [Command.place, Command.Spelled]
  · cases h
    refine (readBy_aroundId .openDoor).trans ?_
    cases command <;> simp [Command.place, Command.Spelled]
  · cases h
    refine (readBy_aroundId .closeDoor).trans ?_
    cases command <;> simp [Command.place, Command.Spelled]
  · cases h
    refine (readBy_aroundIds .retargetTurret).trans ?_
    cases command <;> simp [Command.place, Command.Spelled]
  · cases h
    refine (readBy_aroundIds .tagDevice).trans ?_
    cases command <;> simp [Command.place, Command.Spelled]
  · cases h
    refine (readBy_withAmount .wait).trans ?_
    cases command <;> simp [Command.place, Command.Spelled]
  · cases h
    rw [readBy_log]
    cases command <;> simp [Command.place]
  · simp [forms] at h

/-! ## One form for a line -/

/-- A line without what stands between its quotes and without its digits. -/
def bare (quoted : Bool) : List Char → List Char
  | [] => []
  | c :: rest =>
    if c = '"' then c :: bare (!quoted) rest
    else if quoted || c.isDigit then bare quoted rest
    else c :: bare quoted rest

theorem bare_inQuotes {message : String} (inside : '"' ∉ message.toList) :
    bare false (inQuotes message ++ rest) = '"' :: '"' :: bare false rest := by
  have hinside : ∀ text : List Char, '"' ∉ text →
      bare true (text ++ '"' :: rest) = '"' :: bare false rest := by
    intro text
    induction text with
    | nil => simp [bare]
    | cons c text ih =>
        intro h
        have hne : c ≠ '"' := fun heq => h (heq ▸ List.mem_cons_self)
        simp [bare, hne, ih fun member => h (List.mem_cons_of_mem _ member)]
  simp [inQuotes, bare, hinside _ inside]

theorem bare_digits {digits : List Char} {ticks : UInt64} (numeral : Numeral digits ticks) :
    bare false (digits ++ rest) = bare false rest := by
  have hdigits : ∀ digits : List Char, (∀ c ∈ digits, '0' ≤ c ∧ c ≤ '9') →
      bare false (digits ++ rest) = bare false rest := by
    intro digits
    induction digits with
    | nil => simp
    | cons c digits ih =>
        intro h
        have hdigit : c.isDigit = true := isDigit_iff.mpr (h c List.mem_cons_self)
        have hne : c ≠ '"' := by
          rintro rfl
          exact absurd hdigit (by decide)
        simp [bare, hne, hdigit, ih fun c member => h c (List.mem_cons_of_mem _ member)]
  exact hdigits digits numeral.digit

/-- A text that is its own skeleton. -/
def Plain (text : List Char) : Prop := ∀ c ∈ text, c ≠ '"' ∧ c.isDigit = false

instance (text : List Char) : Decidable (Plain text) := List.decidableBAll _ text

theorem bare_plain (plain : Plain text) : bare false (text ++ rest) = text ++ bare false rest := by
  induction text with
  | nil => rfl
  | cons c text ih =>
      obtain ⟨hquote, hdigit⟩ := plain c List.mem_cons_self
      simp [bare, hquote, hdigit, ih fun c member => plain c (List.mem_cons_of_mem _ member)]

theorem bare_self (plain : Plain text) : bare false text = text := by
  have hplain : bare false (text ++ []) = text ++ bare false [] := bare_plain plain
  simpa [bare] using hplain

section Shapes

variable {opening middle closing : List Char} (begins : Plain opening) (ends : Plain closing)

include begins ends

theorem bare_aroundQuotes {message : String} (inside : '"' ∉ message.toList) :
    bare false (opening ++ inQuotes message ++ closing) = opening ++ '"' :: '"' :: closing := by
  rw [List.append_assoc, bare_plain begins, bare_inQuotes inside, bare_self ends]

theorem bare_aroundIds (between : Plain middle) {first second : String} (named : IsId first)
    (named' : IsId second) :
    bare false (opening ++ inQuotes first ++ middle ++ inQuotes second ++ closing) =
      opening ++ '"' :: '"' :: (middle ++ '"' :: '"' :: closing) := by
  simp only [List.append_assoc]
  rw [bare_plain begins, bare_inQuotes (not_mem_of_isId named), bare_plain between,
    bare_inQuotes (not_mem_of_isId named'), bare_self ends]

theorem bare_withAmount {digits : List Char} {ticks : UInt64} (numeral : Numeral digits ticks) :
    bare false (opening ++ digits ++ closing) = opening ++ closing := by
  rw [List.append_assoc, bare_plain begins, bare_digits numeral, bare_self ends]

end Shapes

/-- What the statements are when they are laid bare, form by form. -/
def skeletons : List (List Char) :=
  ["camera(\"\").disable()".toList, "camera(\"\").enable()".toList, "alarm().delay()".toList,
    "door(\"\").open()".toList, "door(\"\").close()".toList,
    "turret(\"\").retarget(\"\")".toList, "device(\"\").tag(\"\")".toList, "wait()".toList,
    "log(\"\")".toList]

theorem nodup_skeletons : skeletons.Nodup := by decide

theorem bare_of_spelled (spelled : command.Spelled line) :
    skeletons[command.place]? = some (bare false line) := by
  cases command with
  | disableCamera camera duration =>
      cases duration with
      | none =>
          obtain ⟨named, rfl⟩ := spelled
          rw [bare_aroundQuotes (by decide) (by decide) (not_mem_of_isId named)]
          rfl
      | some ticks =>
          obtain ⟨named, digits, numeral, rfl⟩ := spelled
          rw [List.append_assoc, List.append_assoc, List.append_assoc, bare_plain (by decide),
            bare_inQuotes (not_mem_of_isId named), ← List.append_assoc,
            bare_withAmount (by decide) (by decide) numeral]
          rfl
  | enableCamera camera =>
      obtain ⟨named, rfl⟩ := spelled
      rw [bare_aroundQuotes (by decide) (by decide) (not_mem_of_isId named)]
      rfl
  | delayAlarm ticks =>
      obtain ⟨digits, numeral, rfl⟩ := spelled
      rw [bare_withAmount (by decide) (by decide) numeral]
      rfl
  | openDoor door =>
      obtain ⟨named, rfl⟩ := spelled
      rw [bare_aroundQuotes (by decide) (by decide) (not_mem_of_isId named)]
      rfl
  | closeDoor door =>
      obtain ⟨named, rfl⟩ := spelled
      rw [bare_aroundQuotes (by decide) (by decide) (not_mem_of_isId named)]
      rfl
  | retargetTurret turret target =>
      obtain ⟨named, named', rfl⟩ := spelled
      rw [bare_aroundIds (by decide) (by decide) (by decide) named named']
      rfl
  | tagDevice device tag =>
      obtain ⟨named, named', rfl⟩ := spelled
      rw [bare_aroundIds (by decide) (by decide) (by decide) named named']
      rfl
  | wait ticks =>
      obtain ⟨digits, numeral, rfl⟩ := spelled
      rw [bare_withAmount (by decide) (by decide) numeral]
      rfl
  | log message =>
      obtain ⟨inside, rfl⟩ := spelled
      rw [bare_aroundQuotes (by decide) (by decide) inside]
      rfl

/-- A line is a statement of commands of one kind only. -/
theorem place_of_spelled {other : Command} (spelled : command.Spelled line)
    (spelled' : other.Spelled line) : command.place = other.place := by
  have h := bare_of_spelled spelled
  have hplace : command.place < skeletons.length := (List.getElem?_eq_some_iff.mp h).1
  exact (List.getElem?_inj hplace nodup_skeletons).mp (h.trans (bare_of_spelled spelled').symm)

/-- Two forms that read a whole line are in one place. -/
theorem place_of_readBy {place place' : ℕ} {form form' : Reader Command} {command' : Command}
    (hform : forms[place]? = some form) (hform' : forms[place']? = some form')
    (reads : readBy form line = some command) (reads' : readBy form' line = some command') :
    place = place' := by
  obtain ⟨spelled, rfl⟩ := (readBy_form hform).mp reads
  obtain ⟨spelled', rfl⟩ := (readBy_form hform').mp reads'
  exact place_of_spelled spelled spelled'

theorem exists_form (command : Command) : ∃ form, forms[command.place]? = some form := by
  cases command <;> exact ⟨_, rfl⟩

/-- Whatever the order in which the forms are tried, a line is read as the command that it spells. -/
theorem findSome?_readBy {table : List (Reader Command)} (same : table.Perm forms) :
    table.findSome? (fun form => readBy form line) = some command ↔ command.Spelled line := by
  have hplace {form : Reader Command} (member : form ∈ table) :
      ∃ place : ℕ, forms[place]? = some form :=
    List.mem_iff_getElem?.mp (same.mem_iff.mp member)
  constructor
  · intro h
    obtain ⟨form, member, reads⟩ := List.exists_of_findSome?_eq_some h
    obtain ⟨place, hform⟩ := hplace member
    exact ((readBy_form hform).mp reads).1
  · intro spelled
    obtain ⟨form, hform⟩ := exists_form command
    have reads := (readBy_form hform).mpr ⟨spelled, rfl⟩
    have member := same.mem_iff.mpr (List.mem_of_getElem? hform)
    cases hfound : table.findSome? fun form => readBy form line with
    | none => exact absurd (List.findSome?_eq_none_iff.mp hfound form member) (by simp [reads])
    | some other =>
        obtain ⟨form', member', reads'⟩ := List.exists_of_findSome?_eq_some hfound
        obtain ⟨place', hform'⟩ := hplace member'
        rw [← place_of_readBy hform hform' reads reads', hform] at hform'
        obtain rfl := Option.some.inj hform'
        rw [← reads', reads]

/-- A statement is not blank and begins with a letter. -/
theorem not_skippable_of_spelled (spelled : command.Spelled line) : skippable line = false := by
  cases command with
  | disableCamera camera duration =>
      cases duration with
      | none =>
          obtain ⟨-, rfl⟩ := spelled
          rfl
      | some ticks =>
          obtain ⟨-, digits, -, rfl⟩ := spelled
          rfl
  | delayAlarm ticks =>
      obtain ⟨digits, -, rfl⟩ := spelled
      rfl
  | wait ticks =>
      obtain ⟨digits, -, rfl⟩ := spelled
      rfl
  | retargetTurret turret target =>
      obtain ⟨-, -, rfl⟩ := spelled
      rfl
  | tagDevice device tag =>
      obtain ⟨-, -, rfl⟩ := spelled
      rfl
  | _ =>
      obtain ⟨-, rfl⟩ := spelled
      rfl

end Line

/-! ## Printing -/

namespace Command

/-- The plainest statement of a command: its numbers are without zeros in front. -/
def spelling : Command → List Char
  | disableCamera camera none => "camera(".toList ++ inQuotes camera ++ ").disable()".toList
  | disableCamera camera (some ticks) =>
    "camera(".toList ++ inQuotes camera ++ ").disable(".toList ++ Nat.toDigits 10 ticks.toNat ++
      ")".toList
  | enableCamera camera => "camera(".toList ++ inQuotes camera ++ ").enable()".toList
  | delayAlarm ticks => "alarm().delay(".toList ++ Nat.toDigits 10 ticks.toNat ++ ")".toList
  | openDoor door => "door(".toList ++ inQuotes door ++ ").open()".toList
  | closeDoor door => "door(".toList ++ inQuotes door ++ ").close()".toList
  | retargetTurret turret target =>
    "turret(".toList ++ inQuotes turret ++ ").retarget(".toList ++ inQuotes target ++ ")".toList
  | tagDevice device tag =>
    "device(".toList ++ inQuotes device ++ ").tag(".toList ++ inQuotes tag ++ ")".toList
  | wait ticks => "wait(".toList ++ Nat.toDigits 10 ticks.toNat ++ ")".toList
  | log message => "log(".toList ++ inQuotes message ++ ")".toList

/-- The ids of a command are ids, and its text has no quote. -/
structure Spellable (command : Command) : Prop where
  device : ∀ id, command.device? = some id → IsId id
  target : ∀ id, command.target? = some id → IsId id
  tag : ∀ device tag, command = tagDevice device tag → IsId tag
  message : ∀ message, command = log message → '"' ∉ message.toList

theorem numeral_toDigits (ticks : UInt64) : Numeral (Nat.toDigits 10 ticks.toNat) ticks where
  ne_nil := Nat.toDigits_ne_nil
  digit _ member :=
    Line.isDigit_iff.mp (Nat.isDigit_of_mem_toDigits (by decide) (by decide) member)
  value_eq := Nat.ofDigitChars_ten_toDigits

theorem Spellable.spelled {command : Command} (h : command.Spellable) :
    command.Spelled command.spelling := by
  cases command with
  | disableCamera camera duration =>
      cases duration with
      | none => exact ⟨h.device _ rfl, rfl⟩
      | some ticks => exact ⟨h.device _ rfl, _, numeral_toDigits ticks, rfl⟩
  | delayAlarm ticks => exact ⟨_, numeral_toDigits ticks, rfl⟩
  | wait ticks => exact ⟨_, numeral_toDigits ticks, rfl⟩
  | retargetTurret turret target => exact ⟨h.device _ rfl, h.target _ rfl, rfl⟩
  | tagDevice device tag => exact ⟨h.device _ rfl, h.tag _ _ rfl, rfl⟩
  | log message => exact ⟨h.message _ rfl, rfl⟩
  | _ => exact ⟨h.device _ rfl, rfl⟩

end Command

/-! ## Whole lines -/

namespace Line

/-- A line is read as the command that it spells, by one form at most, whatever their order. Blank
lines and comments spell none. -/
structure ReadExactly (line : List Char) : Prop where
  command?_iff : ∀ command, command? line = some command ↔ command.Spelled line
  apart : forms.Pairwise fun form other => readBy form line = none ∨ readBy other line = none
  any_order : ∀ table : List (Reader Command), table.Perm forms →
    table.findSome? (fun form => readBy form line) = command? line
  quiet : skippable line = true → command? line = none

theorem command?_eq_some {line : List Char} {command : Command} :
    command? line = some command ↔ command.Spelled line :=
  findSome?_readBy (.refl forms)

theorem readExactly (line : List Char) : ReadExactly line where
  command?_iff _ := command?_eq_some
  apart := by
    rw [List.pairwise_iff_getElem]
    intro place place' h h' hlt
    by_contra hboth
    simp only [not_or, Option.ne_none_iff_exists'] at hboth
    obtain ⟨⟨command, reads⟩, command', reads'⟩ := hboth
    have hsame := place_of_readBy (List.getElem?_eq_getElem h) (List.getElem?_eq_getElem h') reads reads'
    exact Nat.ne_of_lt hlt hsame
  any_order table same := by
    apply Option.ext
    intro command
    rw [findSome?_readBy same, command?_eq_some]
  quiet silent := by
    rw [Option.eq_none_iff_forall_ne_some]
    intro command h
    rw [not_skippable_of_spelled (command?_eq_some.mp h)] at silent
    cases silent

end Line

/-- Lines are read by the grammar, and a command whose ids are ids and whose text has no quote is read
back from its plainest statement. -/
theorem command?_grammar :
    (∀ line : List Char, Line.ReadExactly line) ∧
      ∀ command : Command, command.Spellable → Line.command? command.spelling = some command :=
  ⟨Line.readExactly, fun _ spellable => Line.command?_eq_some.mpr spellable.spelled⟩

/-- A pause of a camera is read back, and zeros in front of a number do not count. -/
theorem command?_pause :
    (Command.disableCamera "net:cam-1" (some 20)).Spellable ∧
      Line.command? "camera(\"net:cam-1\").disable(20)".toList =
        some (.disableCamera "net:cam-1" (some 20)) ∧
      Line.command? "wait(007)".toList = some (.wait 7) := by
  have spellable : (Command.disableCamera "net:cam-1" (some 20)).Spellable := by
    constructor <;> simp [Command.device?, Command.target?]
    decide
  have digits : "007".toList.all Char.isDigit = true := by decide
  have zeros : Numeral "007".toList 7 :=
    ⟨by decide, fun c member => Line.isDigit_iff.mp (List.all_eq_true.mp digits c member), by decide⟩
  have spelled : (Command.wait 7).Spelled "wait(007)".toList := ⟨_, zeros, rfl⟩
  exact ⟨spellable, command?_grammar.2 _ spellable,
    ((command?_grammar.1 _).command?_iff _).mpr spelled⟩

end Infiltration.Script
