import Infiltration.Proofs.Script.Acceptance
import Mathlib.Data.Finset.Insert
import Mathlib.Data.List.Forall2

/-! # A script without some of its lines

If lines of an accepted script are made blank or turned into comments, it is still accepted. The
commands on the other lines stay as they are, and each comes earlier by the waits that have gone from
the lines above it. -/

namespace Infiltration.Script

/-- A script with blank lines or comments in place of the lines with these numbers. Lines are counted
from one; all others stay. -/
def Blanks (removed : Finset ℕ) (source blanked : String) : Prop :=
  List.Forall₂
    (fun line text =>
      if line.2 ∈ removed then Line.skippable (Text.trim text) = true else text = line.1)
    ((Text.splitLines source.toList).zipIdx 1) (Text.splitLines blanked.toList)

/-- The cues of a script, each beside the number of its line. Unlike the number in the cue itself this
one has no largest value. -/
def numbered (source : String) (cues : List Cue) : List (ℕ × Cue) :=
  ((spokenLines source).map Prod.snd).zip cues

/-- The waits on removed lines above a line, added up. -/
def removedAbove (removed : Finset ℕ) (cues : List (ℕ × Cue)) (line : ℕ) : ℕ :=
  paused ((cues.filter fun entry => entry.1 ∈ removed ∧ entry.1 < line).map fun entry =>
    entry.2.command)

/-- The cues that remain of numbered ones: those on the other lines, in their order, changed in
nothing but the tick, which is earlier by the removed waits above. -/
def Remain (removed : Finset ℕ) (cues : List (ℕ × Cue)) (remaining : List Cue) : Prop :=
  List.Forall₂
    (fun old new => new = { old.2 with tick := new.tick } ∧
      new.tick.toNat + removedAbove removed cues old.1 = old.2.tick.toNat)
    (cues.filter fun entry => entry.1 ∉ removed) remaining

variable {removed : Finset ℕ}

/-! ## The lines that are left -/

theorem filter_zipIdx_of_blanks {position : ℕ} {lines texts : List (List Char)}
    (blanks : List.Forall₂
      (fun line text =>
        if line.2 ∈ removed then Line.skippable (Text.trim text) = true else text = line.1)
      (lines.zipIdx position) texts) :
    (((texts.map Text.trim).zipIdx position).filter fun line => !Line.skippable line.1) =
      (((lines.map Text.trim).zipIdx position).filter fun line => !Line.skippable line.1).filter
        fun line => line.2 ∉ removed := by
  induction lines generalizing position texts with
  | nil =>
      cases blanks
      rfl
  | cons line lines ih =>
      rw [List.zipIdx_cons] at blanks
      cases blanks with
      | cons first rest =>
          simp only [List.map_cons, List.zipIdx_cons, List.filter_cons, ih rest]
          by_cases gone : position ∈ removed
          · rw [if_pos gone] at first
            cases hskip : Line.skippable (Text.trim line) <;> simp [first, gone]
          · rw [if_neg gone] at first
            cases hskip : Line.skippable (Text.trim line) <;> simp [first, hskip, gone]

theorem spokenLines_of_blanks {source blanked : String} (blanks : Blanks removed source blanked) :
    spokenLines blanked = (spokenLines source).filter fun line => line.2 ∉ removed :=
  filter_zipIdx_of_blanks blanks

theorem numbers_increase (source : String) :
    (spokenLines source).Pairwise fun earlier later => earlier.2 < later.2 := by
  apply List.Pairwise.filter
  rw [← List.pairwise_map, List.zipIdx_map_snd]
  exact List.pairwise_lt_range'

/-! ## Fewer commands -/

theorem paused_le_of_sublist {fewer commands : List Command} (sublist : fewer.Sublist commands) :
    paused fewer ≤ paused commands := by
  induction sublist with
  | slnil => exact Nat.le_refl _
  | cons command _ ih => exact ih.trans (Nat.le_add_left _ _)
  | cons_cons command _ ih => exact Nat.add_le_add_left ih _

theorem dropLast_sublist_dropLast {fewer commands : List Command}
    (sublist : fewer.Sublist commands) : fewer.dropLast.Sublist commands.dropLast := by
  rw [← List.reverse_sublist, ← List.tail_reverse, ← List.tail_reverse]
  exact sublist.reverse.tail

/-- Some of the lines of an accepted script, with their commands, would be accepted as well. -/
theorem Accepted.of_sublist {level : Level} {options : Options}
    {fewer spoken : List ((List Char × ℕ) × Command)} (sublist : fewer.Sublist spoken)
    (accepted : Accepted level options (spoken.map Prod.fst) (spoken.map Prod.snd)) :
    Accepted level options (fewer.map Prod.fst) (fewer.map Prod.snd) where
  spelled := by
    have hspelled := accepted.spelled
    rw [List.map_map, List.map_map, List.map_inj_left] at hspelled ⊢
    exact fun line member => hspelled line (sublist.subset member)
  few_lines := (sublist.map Prod.fst).length_le.trans accepted.few_lines
  few_commands := (sublist.map Prod.fst).length_le.trans accepted.few_commands
  lawful := fun command member => accepted.lawful command ((sublist.map Prod.snd).subset member)
  timely := by
    rcases accepted.timely with hnone | htimely
    · exact .inl (List.sublist_nil.mp (hnone ▸ sublist.map Prod.snd))
    · have hle := paused_le_of_sublist (dropLast_sublist_dropLast (sublist.map Prod.snd))
      exact .inr (Nat.lt_of_le_of_lt hle htimely)

/-! ## Their ticks -/

/-- A statement set to a tick. -/
def Statement.cue (statement : Statement) (tick : UInt64) : Cue :=
  { tick, line := statement.line, raw := statement.raw, command := statement.command }

@[simp] theorem Statement.command_cue (statement : Statement) (tick : UInt64) :
    (statement.cue tick).command = statement.command := rfl

/-- Statements with numbers, set to ticks. -/
def dated (tick : UInt64) (items : List (ℕ × Statement)) : List (ℕ × Cue) :=
  (items.map Prod.fst).zip (scheduleFrom tick (items.map Prod.snd))

theorem removedAbove_cons (entry : ℕ × Cue) (cues : List (ℕ × Cue)) (line : ℕ) :
    removedAbove removed (entry :: cues) line =
      (if entry.1 ∈ removed ∧ entry.1 < line then entry.2.command.pause else 0) +
        removedAbove removed cues line := by
  unfold removedAbove
  by_cases h : entry.1 ∈ removed ∧ entry.1 < line <;> simp [h, paused]

theorem removedAbove_of_le {cues : List (ℕ × Cue)} {line : ℕ}
    (below : ∀ entry ∈ cues, line ≤ entry.1) : removedAbove removed cues line = 0 := by
  have hnone : (cues.filter fun entry => entry.1 ∈ removed ∧ entry.1 < line) = [] := by
    rw [List.filter_eq_nil_iff]
    intro entry member h
    exact Nat.not_lt.mpr (below entry member) (of_decide_eq_true h).2
  rw [removedAbove, hnone]
  rfl

theorem number_of_mem_dated {tick : UInt64} {items : List (ℕ × Statement)} {entry : ℕ × Cue}
    (member : entry ∈ dated tick items) : ∃ item ∈ items, item.1 = entry.1 :=
  List.mem_map.mp (List.of_mem_zip member).1

/-- The tick after a command is exact if it fits a word. -/
theorem toNat_advance_of_lt {tick : UInt64} {command : Command}
    (fits : tick.toNat + command.pause < UInt64.size) :
    (command.advance tick).toNat = tick.toNat + command.pause := by
  rw [toNat_advance]
  omega

/-- Two schedules side by side, one of all statements and one of those that remain. The first is ahead
by the waits that have gone so far, and none of its ticks is cut off. -/
theorem forall₂_scheduleFrom (removed : Finset ℕ) (items : List (ℕ × Statement))
    (tick earlier : UInt64) (gone : ℕ)
    (increasing : items.Pairwise fun above below => above.1 < below.1)
    (behind : items ≠ [] → earlier.toNat + gone = tick.toNat ∧
      tick.toNat + paused (items.map fun item => item.2.command).dropLast < UInt64.size) :
    List.Forall₂
      (fun old new => new = { old.2 with tick := new.tick } ∧
        new.tick.toNat + (gone + removedAbove removed (dated tick items) old.1) = old.2.tick.toNat)
      ((dated tick items).filter fun entry => entry.1 ∉ removed)
      (scheduleFrom earlier ((items.filter fun item => item.1 ∉ removed).map Prod.snd)) := by
  induction items generalizing tick earlier gone with
  | nil => exact .nil
  | cons item rest ih =>
      obtain ⟨habove, increasing⟩ := List.pairwise_cons.mp increasing
      obtain ⟨htick, hfits⟩ := behind (List.cons_ne_nil _ _)
      have hdated : dated tick (item :: rest) =
          (item.1, item.2.cue tick) :: dated (item.2.command.advance tick) rest := rfl
      have hbelow : ∀ entry ∈ dated (item.2.command.advance tick) rest, item.1 < entry.1 := by
        intro entry member
        obtain ⟨other, hother, heq⟩ := number_of_mem_dated member
        exact heq ▸ habove other hother
      -- Unless the command is the last one, the tick after it is exact.
      have hnext : rest ≠ [] →
          tick.toNat + item.2.command.pause +
            paused (rest.map fun item => item.2.command).dropLast < UInt64.size := by
        intro hrest
        rw [List.map_cons, List.dropLast_cons_of_ne_nil (by simpa using hrest), paused] at hfits
        omega
      rw [hdated]
      by_cases hgone : item.1 ∈ removed
      · have hstep := ih (item.2.command.advance tick) earlier (gone + item.2.command.pause) increasing
          fun hrest => by
            have hlt := hnext hrest
            rw [toNat_advance_of_lt (by omega)]
            omega
        have hboth := (List.forall₂_and_left _ _).mpr
          ⟨fun entry member => hbelow entry (List.mem_of_mem_filter member), hstep⟩
        simp only [List.filter_cons, hgone, not_true_eq_false, decide_false, Bool.false_eq_true,
          ite_false]
        apply hboth.imp
        rintro old new ⟨hlt, hsame, hexact⟩
        refine ⟨hsame, ?_⟩
        rw [removedAbove_cons, if_pos ⟨hgone, hlt⟩, Statement.command_cue, ← hexact]
        omega
      · have hstep := ih (item.2.command.advance tick) (item.2.command.advance earlier) gone increasing
          fun hrest => by
            have hlt := hnext hrest
            rw [toNat_advance_of_lt (by omega), toNat_advance_of_lt (by omega)]
            omega
        simp only [List.filter_cons, hgone, not_false_eq_true, decide_true, ite_true, List.map_cons,
          scheduleFrom]
        apply List.Forall₂.cons
        · refine ⟨rfl, ?_⟩
          rw [removedAbove_cons, removedAbove_of_le fun entry member => (hbelow entry member).le]
          simpa [hgone, Statement.cue] using htick
        · apply hstep.imp
          rintro old new ⟨hsame, hexact⟩
          refine ⟨hsame, ?_⟩
          rw [removedAbove_cons, if_neg fun h => hgone h.1, Nat.zero_add, hexact]

/-! ## Compilation -/

/-- The statements of lines that spell these commands, with the numbers of the lines. -/
def listed (spoken : List ((List Char × ℕ) × Command)) : List (ℕ × Statement) :=
  spoken.map fun line => (line.1.2, Statement.ofLine line.1 line.2)

section

variable {spoken : List ((List Char × ℕ) × Command)}

theorem map_fst_listed : (listed spoken).map Prod.fst = (spoken.map Prod.fst).map Prod.snd := by
  rw [listed, List.map_map, List.map_map]
  rfl

theorem map_snd_listed : (listed spoken).map Prod.snd =
    List.zipWith Statement.ofLine (spoken.map Prod.fst) (spoken.map Prod.snd) := by
  rw [listed, List.map_map, List.zipWith_map, List.zipWith_self]
  rfl

theorem filter_listed : ((listed spoken).filter fun item => item.1 ∉ removed) =
    listed (spoken.filter fun line => line.1.2 ∉ removed) := by
  rw [listed, List.filter_map]
  rfl

theorem commands_listed : ((listed spoken).map fun item => item.2.command) =
    spoken.map Prod.snd := by
  rw [listed, List.map_map]
  rfl

end

/-- The cues of accepted commands after those of some lines have gone. -/
theorem remain_schedule {level : Level} {options : Options} {source : String}
    {spoken : List ((List Char × ℕ) × Command)} (lines : spoken.map Prod.fst = spokenLines source)
    (accepted : Accepted level options (spokenLines source) (spoken.map Prod.snd)) :
    Remain removed (numbered source (schedule ((listed spoken).map Prod.snd)))
      (schedule ((listed (spoken.filter fun line => line.1.2 ∉ removed)).map Prod.snd)) := by
  have hnumbered :
      numbered source (schedule ((listed spoken).map Prod.snd)) = dated 0 (listed spoken) := by
    rw [numbered, ← lines, ← map_fst_listed]
    rfl
  have hincrease := numbers_increase source
  rw [← lines, ← List.pairwise_map, ← map_fst_listed, List.pairwise_map] at hincrease
  have hexact := forall₂_scheduleFrom removed (listed spoken) 0 0 0 hincrease fun some_item => by
      rw [commands_listed, UInt64.toNat_zero, Nat.zero_add]
      rcases accepted.timely with hnone | htimely
      · rw [← commands_listed, List.map_eq_nil_iff] at hnone
        exact absurd hnone some_item
      · have hword := level.constraints.tickLimit.toNat_lt_size
        omega
  simp only [Nat.zero_add] at hexact
  rw [hnumbered, ← filter_listed]
  exact hexact

/-- A script stays accepted if some of its lines are blanked, and its cues are then those that remain
of its cues, of which there is one for every line that says something. -/
theorem compile_blanked (level : Level) (options : Options) {source blanked : String}
    (blanks : Blanks removed source blanked) {cues : List Cue}
    (ok : compile level options source = .ok cues) :
    cues.length = (spokenLines source).length ∧
      ∃ remaining, compile level options blanked = .ok remaining ∧
        Remain removed (numbered source cues) remaining := by
  obtain ⟨commands, accepted, rfl⟩ := compile_eq_ok_iff.mp ok
  have hlength := length_of_spelled accepted.spelled
  obtain ⟨spoken, hlines, rfl⟩ : ∃ spoken : List ((List Char × ℕ) × Command),
      spoken.map Prod.fst = spokenLines source ∧ spoken.map Prod.snd = commands :=
    ⟨(spokenLines source).zip commands, List.map_fst_zip hlength.le, List.map_snd_zip hlength.ge⟩
  have hleft : spokenLines blanked =
      (spoken.filter fun line => line.1.2 ∉ removed).map Prod.fst := by
    rw [spokenLines_of_blanks blanks, ← hlines, List.filter_map]
    rfl
  have hsublist : (spoken.filter fun line => line.1.2 ∉ removed).Sublist spoken :=
    List.filter_sublist
  have hfewer := (hlines ▸ accepted).of_sublist hsublist
  rw [← hleft] at hfewer
  refine ⟨?_, _, compile_eq_ok_iff.mpr ⟨_, hfewer, rfl⟩, ?_⟩
  · rw [schedule, length_scheduleFrom, List.length_zipWith, ← hlength, Nat.min_self]
  · rw [hleft, ← map_snd_listed, ← hlines, ← map_snd_listed]
    exact remain_schedule hlines accepted

/-- A script for the corridor with two waits. -/
def patientScript : String := "wait(1)\n\ndoor(\"gate\").open()\nwait(1)\nlog(\"open\")"

/-- The same with a comment in place of the first wait. -/
def hastyScript : String := " // wait(1)\n\ndoor(\"gate\").open()\nwait(1)\nlog(\"open\")"

/-- The door now opens at once, and the last command keeps the second wait only. -/
theorem compile_blanked_patientScript :
    Blanks {1} patientScript hastyScript ∧
      ∃ cues, compile corridor {} patientScript = .ok cues ∧ cues.map Cue.tick = [0, 1, 1, 2] ∧
        ∃ remaining, compile corridor {} hastyScript = .ok remaining ∧
          remaining.map Cue.tick = [0, 0, 1] ∧ Remain {1} (numbered patientScript cues) remaining := by
  have blanks : Blanks {1} patientScript hastyScript := by
    unfold Blanks
    decide
  obtain ⟨cues, ok, hticks⟩ : ∃ cues, compile corridor {} patientScript = .ok cues ∧
      cues.map Cue.tick = [0, 1, 1, 2] := ⟨_, rfl, by decide⟩
  obtain ⟨earlier, again, hearlier⟩ : ∃ cues, compile corridor {} hastyScript = .ok cues ∧
      cues.map Cue.tick = [0, 0, 1] := ⟨_, rfl, by decide⟩
  obtain ⟨-, remaining, hcompile, hremain⟩ := compile_blanked corridor {} blanks ok
  obtain rfl : earlier = remaining := Except.ok.inj (again.symm.trans hcompile)
  exact ⟨blanks, cues, ok, hticks, earlier, again, hearlier, hremain⟩

end Infiltration.Script
