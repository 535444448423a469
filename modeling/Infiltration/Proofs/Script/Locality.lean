import Infiltration.Proofs.Script.Acceptance
import Mathlib.Data.List.Forall2
import Mathlib.Data.List.TakeWhile

/-! # Reading goes line by line

Every line of a script is read by itself. A script that is made of two reads as the one and then the
other, with higher line numbers; no line that says something is lost or read twice; and blanks at the
ends of lines do not count. -/

namespace Infiltration

/-! ## Blanks at the ends of lines -/

namespace Text

/-- A line with blanks at its ends that end no line. -/
def Padded (line padded : List Char) : Prop :=
  ∃ front back, padded = front ++ line ++ back ∧
    ∀ c ∈ front ++ back, isBlank c = true ∧ c ≠ '\n'

theorem trim_append_blanks {front back : List Char} (line : List Char)
    (blank : ∀ c ∈ front ++ back, isBlank c = true) : trim (front ++ line ++ back) = trim line := by
  have hfront : ∀ c ∈ front, isBlank c = true := fun c member =>
    blank c (List.mem_append_left _ member)
  have hback : ∀ c ∈ back, isBlank c = true := fun c member =>
    blank c (List.mem_append_right _ member)
  have hreverse : ∀ c ∈ back.reverse, isBlank c = true := fun c member =>
    hback c (List.mem_reverse.mp member)
  rw [trim, trim, List.append_assoc, List.dropWhile_append_of_pos hfront, List.dropWhile_append]
  split
  · rename_i hnone
    have hline : line.dropWhile isBlank = [] := List.isEmpty_iff.mp hnone
    rw [hline, List.dropWhile_eq_nil_iff.mpr hback]
  · rw [List.reverse_append, List.dropWhile_append_of_pos hreverse]

theorem Padded.trim_eq {line padded : List Char} (h : Padded line padded) :
    trim padded = trim line := by
  obtain ⟨front, back, rfl, blank⟩ := h
  exact trim_append_blanks line fun c member => (blank c member).1

/-- Every newline with a carriage return before it. -/
def withReturns (text : List Char) : List Char :=
  text.flatMap fun c => if c = '\n' then ['\r', '\n'] else [c]

theorem padded_withReturns (text : List Char) :
    List.Forall₂ Padded (splitLines text) (splitLines (withReturns text)) := by
  have hreturns : List.Forall₂ (fun line padded => padded = line ∨ padded = line ++ ['\r'])
      (splitLines text) (splitLines (withReturns text)) := by
    induction text with
    | nil => exact .cons (.inl rfl) .nil
    | cons c text ih =>
        by_cases hc : c = '\n'
        · subst hc
          simpa [withReturns, splitLines] using ih
        · have hreturns : withReturns (c :: text) = c :: withReturns text := by
            simp [withReturns, hc]
          rw [hreturns, splitLines, splitLines, if_neg hc, if_neg hc]
          revert ih
          rcases splitLines text with _ | ⟨line, lines⟩ <;>
            rcases splitLines (withReturns text) with _ | ⟨padded, more⟩ <;> simp
  refine hreturns.imp fun line padded h => ?_
  rcases h with rfl | rfl
  · exact ⟨[], [], by simp, by simp⟩
  · refine ⟨[], ['\r'], by simp, ?_⟩
    rw [List.nil_append, List.forall_mem_singleton]
    decide

end Text

namespace Script

/-! ## What a reading says of a line -/

/-- The line of a script that a result of reading is about. -/
def lineOf : Except Diagnostic Statement → UInt32
  | .ok statement => statement.line
  | .error diagnostic => diagnostic.line

/-- A result of reading, with a number of lines in front of the script. -/
def raise (lines : ℕ) : Except Diagnostic Statement → Except Diagnostic Statement
  | .ok statement => .ok { statement with line := UInt32.ofNat (statement.line.toNat + lines) }
  | .error diagnostic =>
    .error { diagnostic with line := UInt32.ofNat (diagnostic.line.toNat + lines) }

namespace Reading

/-- A reading, with a number of lines in front of the script. -/
def raise (lines : ℕ) (reading : Reading) : Reading where
  statements := reading.statements.map fun statement =>
    { statement with line := UInt32.ofNat (statement.line.toNat + lines) }
  errors := reading.errors.map fun diagnostic =>
    { diagnostic with line := UInt32.ofNat (diagnostic.line.toNat + lines) }

def append (front back : Reading) : Reading where
  statements := front.statements ++ back.statements
  errors := front.errors ++ back.errors

def statementsOn (reading : Reading) (line : ℕ) : List Statement :=
  reading.statements.filter fun statement => statement.line.toNat = line

def errorsOn (reading : Reading) (line : ℕ) : List Diagnostic :=
  reading.errors.filter fun diagnostic => diagnostic.line.toNat = line

/-- What a reading says of one line of a script, trimmed: nothing, or that it is a command, or that it
cannot be read. -/
inductive Tells (reading : Reading) (line : ℕ) (raw : List Char) : Prop where
  | silent (skipped : Line.skippable raw = true) (no_statement : reading.statementsOn line = [])
      (no_error : reading.errorsOn line = [])
  | statement (command : Command) (spoken : Line.skippable raw = false)
      (spelled : Line.command? raw = some command)
      (one_statement : reading.statementsOn line =
        [{ line := UInt32.ofNat line, raw := String.ofList raw, command }])
      (no_error : reading.errorsOn line = [])
  | error (spoken : Line.skippable raw = false) (misspelled : Line.command? raw = none)
      (no_statement : reading.statementsOn line = [])
      (one_error : reading.errorsOn line =
        [{ line := UInt32.ofNat line
           message := "Unrecognized command syntax: " ++ String.ofList raw }])

/-- A reading loses no line of a script and invents none, in the order of the lines, and does not
depend on blanks at their ends. -/
structure Faithful (source : String) (reading : Reading) : Prop where
  tells : ∀ (place : ℕ) (text : List Char), (Text.splitLines source.toList)[place]? = some text →
    reading.Tells (place + 1) (Text.trim text)
  statements_increase : (reading.statements.map Statement.line).Pairwise (· < ·)
  errors_increase : (reading.errors.map Diagnostic.line).Pairwise (· < ·)
  count_eq : reading.statements.length + reading.errors.length = countStatements source
  padded : ∀ other : String,
    List.Forall₂ Text.Padded (Text.splitLines source.toList) (Text.splitLines other.toList) →
      read other = reading
  returns : read (String.ofList (Text.withReturns source.toList)) = reading

end Reading

/-! ## The results line by line -/

variable {position lines : ℕ} {raw : List Char} {raws : List (List Char)}
  {result : Except Diagnostic Statement}

theorem lineNumber_of_lt (h : position < UInt32.size) : lineNumber position = UInt32.ofNat position := by
  rw [lineNumber, Nat.min_eq_right (Nat.le_sub_one_of_lt h)]

theorem lineOf_of_readLine (h : readLine position raw = some result) :
    lineOf result = lineNumber position := by
  unfold readLine at h
  split at h
  · cases h
  · split at h <;> cases h <;> rfl

/-- The results of lines have the numbers of these lines. -/
theorem lineOf_of_mem (few : position + raws.length ≤ UInt32.size)
    (member : result ∈ readLines position raws) :
    position ≤ (lineOf result).toNat ∧ (lineOf result).toNat < position + raws.length := by
  induction raws generalizing position with
  | nil => cases member
  | cons raw rest ih =>
      rw [List.length_cons] at few ⊢
      rw [readLines, List.mem_append, Option.mem_toList] at member
      rcases member with here | later
      · have hline := congrArg UInt32.toNat (lineOf_of_readLine here)
        rw [toNat_lineNumber (by omega)] at hline
        omega
      · have hline := ih (by omega) later
        omega

theorem pairwise_lineOf (few : position + raws.length ≤ UInt32.size) :
    (readLines position raws).Pairwise fun earlier later => lineOf earlier < lineOf later := by
  induction raws generalizing position with
  | nil => exact .nil
  | cons raw rest ih =>
      rw [List.length_cons] at few
      rw [readLines, List.pairwise_append]
      refine ⟨?_, ih (by omega), ?_⟩
      · cases readLine position raw <;> simp
      · intro first here later hlater
        have hline := congrArg UInt32.toNat (lineOf_of_readLine (Option.mem_toList.mp here))
        rw [toNat_lineNumber (by omega)] at hline
        have hnext := (lineOf_of_mem (by omega) hlater).1
        rw [UInt32.lt_iff_toNat_lt]
        omega

/-- The results on the number of a line are those of the line. -/
theorem filter_readLines (few : position + raws.length ≤ UInt32.size) {place : ℕ}
    (h : raws[place]? = some raw) :
    (readLines position raws).filter (fun result => (lineOf result).toNat = position + place) =
      (readLine (position + place) raw).toList := by
  obtain ⟨hplace, rfl⟩ := List.getElem?_eq_some_iff.mp h
  have hlength : (raws.take place).length = place := List.length_take_of_le (Nat.le_of_lt hplace)
  have hlater : (raws.drop (place + 1)).length = raws.length - (place + 1) := List.length_drop
  have hsplit : raws = raws.take place ++ raws[place] :: raws.drop (place + 1) := by
    rw [List.getElem_cons_drop, List.take_append_drop]
  have hread : readLines position raws =
      readLines position (raws.take place) ++ ((readLine (position + place) raws[place]).toList ++
        readLines (position + place + 1) (raws.drop (place + 1))) := by
    conv_lhs => rw [hsplit, readLines_append, hlength, readLines]
  have hbefore : (readLines position (raws.take place)).filter
      (fun result => (lineOf result).toNat = position + place) = [] := by
    rw [List.filter_eq_nil_iff]
    intro result member
    have hline := (lineOf_of_mem (by omega) member).2
    simp only [decide_eq_true_eq]
    omega
  have hafter : (readLines (position + place + 1) (raws.drop (place + 1))).filter
      (fun result => (lineOf result).toNat = position + place) = [] := by
    rw [List.filter_eq_nil_iff]
    intro result member
    have hline := (lineOf_of_mem (by omega) member).1
    simp only [decide_eq_true_eq]
    omega
  have hhere : ((readLine (position + place) raws[place]).toList).filter
      (fun result => (lineOf result).toNat = position + place) =
        (readLine (position + place) raws[place]).toList := by
    rw [List.filter_eq_self]
    intro result member
    rw [lineOf_of_readLine (Option.mem_toList.mp member), toNat_lineNumber (by omega)]
    exact decide_eq_true rfl
  rw [hread, List.filter_append, List.filter_append, hbefore, hhere, hafter, List.append_nil,
    List.nil_append]

theorem statementsOn_read (source : String) (line : ℕ) :
    (read source).statementsOn line =
      ((readLines 1 (trimmedLines source)).filter
        (fun result => (lineOf result).toNat = line)).filterMap statement? := by
  simp only [read, Reading.statementsOn, List.filter_filterMap, List.filterMap_filter]
  refine List.filterMap_congr fun result _ => ?_
  cases result <;> grind [statement?, lineOf]

theorem errorsOn_read (source : String) (line : ℕ) :
    (read source).errorsOn line =
      ((readLines 1 (trimmedLines source)).filter
        (fun result => (lineOf result).toNat = line)).filterMap diagnostic? := by
  simp only [read, Reading.errorsOn, List.filter_filterMap, List.filterMap_filter]
  refine List.filterMap_congr fun result _ => ?_
  cases result <;> grind [diagnostic?, lineOf]

variable {source : String} (few : (trimmedLines source).length < UInt32.size)

include few

theorem tells_read {place : ℕ} {text : List Char}
    (h : (Text.splitLines source.toList)[place]? = some text) :
    (read source).Tells (place + 1) (Text.trim text) := by
  have htrimmed : (trimmedLines source)[place]? = some (Text.trim text) := by
    rw [trimmedLines, List.getElem?_map, h, Option.map_some]
  have hplace := (List.getElem?_eq_some_iff.mp htrimmed).1
  have hfew : 1 + (trimmedLines source).length ≤ UInt32.size := by omega
  have hfilter := filter_readLines hfew htrimmed
  have hnumber : lineNumber (1 + place) = UInt32.ofNat (place + 1) := by
    rw [lineNumber_of_lt (by omega), Nat.add_comm]
  have hstatements := statementsOn_read source (place + 1)
  have herrors := errorsOn_read source (place + 1)
  rw [Nat.add_comm place 1, hfilter] at hstatements herrors
  rw [Nat.add_comm place 1]
  cases hskip : Line.skippable (Text.trim text) with
  | true =>
      simp only [readLine, hskip] at hstatements herrors
      exact .silent hskip hstatements herrors
  | false =>
      cases hcommand : Line.command? (Text.trim text) with
      | none =>
          simp only [readLine, hskip, hcommand, hnumber] at hstatements herrors
          exact .error hskip hcommand hstatements (Nat.add_comm place 1 ▸ herrors)
      | some command =>
          simp only [readLine, hskip, hcommand, hnumber] at hstatements herrors
          exact .statement command hskip hcommand (Nat.add_comm place 1 ▸ hstatements) herrors

theorem statements_increase :
    ((read source).statements.map Statement.line).Pairwise (· < ·) := by
  rw [List.pairwise_map]
  have hfew : 1 + (trimmedLines source).length ≤ UInt32.size := by omega
  refine (pairwise_lineOf hfew).filterMap statement? ?_
  intro earlier later hlt statement hstatement other hother
  cases earlier <;> cases hstatement
  cases later <;> cases hother
  exact hlt

theorem errors_increase : ((read source).errors.map Diagnostic.line).Pairwise (· < ·) := by
  rw [List.pairwise_map]
  have hfew : 1 + (trimmedLines source).length ≤ UInt32.size := by omega
  refine (pairwise_lineOf hfew).filterMap diagnostic? ?_
  intro earlier later hlt diagnostic hdiagnostic other hother
  cases earlier <;> cases hdiagnostic
  cases later <;> cases hother
  exact hlt

omit few

/-! ## How many results there are -/

theorem length_readLines (position : ℕ) (raws : List (List Char)) :
    (readLines position raws).length = raws.countP fun raw => !Line.skippable raw := by
  induction raws generalizing position with
  | nil => rfl
  | cons raw rest ih =>
      rw [readLines, List.length_append, ih, List.countP_cons, Nat.add_comm]
      cases hskip : Line.skippable raw with
      | true => simp [readLine, hskip]
      | false => cases hcommand : Line.command? raw <;> simp [readLine, hskip, hcommand]

theorem length_filterMap_results (results : List (Except Diagnostic Statement)) :
    (results.filterMap statement?).length + (results.filterMap diagnostic?).length =
      results.length := by
  induction results with
  | nil => rfl
  | cons result rest ih =>
      cases result <;> simp only [List.filterMap_cons, statement?, diagnostic?, List.length_cons] <;>
        omega

theorem length_read (source : String) :
    (read source).statements.length + (read source).errors.length = countStatements source := by
  rw [countStatements, ← length_readLines 1]
  exact length_filterMap_results _

/-! ## Blanks -/

/-- A reading depends on the trimmed lines only. -/
theorem read_of_padded {other : String}
    (h : List.Forall₂ Text.Padded (Text.splitLines source.toList) (Text.splitLines other.toList)) :
    read other = read source := by
  have htrimmed : trimmedLines other = trimmedLines source := by
    rw [trimmedLines, trimmedLines, ← List.forall₂_eq_eq_eq, List.forall₂_map_left_iff,
      List.forall₂_map_right_iff]
    exact h.flip.imp fun _ _ padded => Text.Padded.trim_eq padded
  rw [read, read, htrimmed]

theorem faithful_read (few : (trimmedLines source).length < UInt32.size) :
    (read source).Faithful source where
  tells _ _ h := tells_read few h
  statements_increase := statements_increase few
  errors_increase := errors_increase few
  count_eq := length_read source
  padded _ := read_of_padded
  returns := read_of_padded (by simpa using Text.padded_withReturns source.toList)

/-! ## Two scripts in one -/

theorem trimmedLines_append (a b : String) :
    trimmedLines (a ++ "\n" ++ b) = trimmedLines a ++ trimmedLines b := by
  have htext : (a ++ "\n" ++ b).toList = a.toList ++ '\n' :: b.toList := by simp
  rw [trimmedLines, htext, Text.splitLines_append, List.map_append, trimmedLines, trimmedLines]

theorem readLine_raise (few : position + lines < UInt32.size) :
    readLine (position + lines) raw = (readLine position raw).map (raise lines) := by
  have hline : lineNumber (position + lines) =
      UInt32.ofNat ((lineNumber position).toNat + lines) := by
    rw [lineNumber_of_lt few, toNat_lineNumber (by omega)]
  unfold readLine
  split
  · rfl
  · cases Line.command? raw <;> simp [raise, hline, Problem.on]

theorem readLines_raise (few : position + lines + raws.length ≤ UInt32.size) :
    readLines (position + lines) raws = (readLines position raws).map (raise lines) := by
  induction raws generalizing position with
  | nil => rfl
  | cons raw rest ih =>
      rw [List.length_cons] at few
      have hfew : position + 1 + lines + rest.length ≤ UInt32.size := by omega
      have hrest := ih hfew
      rw [Nat.add_right_comm] at hrest
      rw [readLines, readLines, hrest, readLine_raise (by omega), List.map_append]
      cases readLine position raw <;> rfl

theorem read_append {a b : String}
    (few : (trimmedLines a).length + (trimmedLines b).length < UInt32.size) :
    read (a ++ "\n" ++ b) = (read a).append ((read b).raise (trimmedLines a).length) := by
  have hresults : readLines 1 (trimmedLines (a ++ "\n" ++ b)) =
      readLines 1 (trimmedLines a) ++
        (readLines 1 (trimmedLines b)).map (raise (trimmedLines a).length) := by
    rw [trimmedLines_append, readLines_append, readLines_raise (by omega)]
  simp only [read, Reading.append, Reading.raise, hresults, List.filterMap_append,
    List.filterMap_map, List.map_filterMap]
  congr 2
  · refine List.filterMap_congr fun result _ => ?_
    cases result <;> rfl
  · refine List.filterMap_congr fun result _ => ?_
    cases result <;> rfl

/-- Two scripts one below the other read as the one and then the other, the lines of which come
after those of the first; and a script is read faithfully. -/
theorem read_lineByLine :
    (∀ a b : String, (trimmedLines a).length + (trimmedLines b).length < UInt32.size →
      read (a ++ "\n" ++ b) = (read a).append ((read b).raise (trimmedLines a).length)) ∧
    ∀ source : String, (trimmedLines source).length < UInt32.size →
      (read source).Faithful source :=
  ⟨fun _ _ => read_append, fun _ => faithful_read⟩

/-- A misspelled line in the first script, a comment and a padded line in the second. -/
theorem read_lineByLine_memo :
    (trimmedLines "wait(1)\nhack").length + (trimmedLines "# memo\r\n wait(2)\t").length <
        UInt32.size ∧
      read ("wait(1)\nhack" ++ "\n" ++ "# memo\r\n wait(2)\t") =
        { statements :=
            [{ line := 1, raw := "wait(1)", command := .wait 1 },
              { line := 4, raw := "wait(2)", command := .wait 2 }]
          errors := [{ line := 2, message := "Unrecognized command syntax: hack" }] } ∧
      (read "# memo\r\n wait(2)\t").Faithful "# memo\r\n wait(2)\t" := by
  have few : (trimmedLines "wait(1)\nhack").length + (trimmedLines "# memo\r\n wait(2)\t").length <
      UInt32.size := by decide
  refine ⟨few, ?_, read_lineByLine.2 _ (by decide)⟩
  rw [read_lineByLine.1 _ _ few]
  decide

end Script

end Infiltration
