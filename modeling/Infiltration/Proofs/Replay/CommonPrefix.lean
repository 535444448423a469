import Infiltration.Proofs.Replay.Verification
import Mathlib.Order.Bounds.Defs

/-! # A comparison finds the longest common prefix

Two series of frames are compared as far as their stamps agree. What is told of the first frame
that differs depends on which of the two series still has one there. -/

namespace Infiltration

/-- The first frames of two series, so many of each, agree in pairs. -/
def Frame.AgreeOn (length : ℕ) (recorded rerun : List Frame) : Prop :=
  ∀ place < length, ∃ frame again, recorded[place]? = some frame ∧ rerun[place]? = some again ∧
    frame.stamp = again.stamp

namespace Frame.AgreeOn

variable {recorded rerun : List Frame} {length : ℕ}

theorem zero : AgreeOn 0 recorded rerun := fun place h => absurd h (Nat.not_lt_zero place)

theorem cons_iff {frame again : Frame} :
    AgreeOn (length + 1) (frame :: recorded) (again :: rerun) ↔
      frame.stamp = again.stamp ∧ AgreeOn length recorded rerun := by
  constructor
  · intro h
    refine ⟨by simpa using h 0 (Nat.succ_pos length), ?_⟩
    intro place hplace
    simpa using h (place + 1) (Nat.succ_lt_succ hplace)
  · rintro ⟨hstamp, h⟩ place hplace
    cases place with
    | zero => simpa using hstamp
    | succ place => simpa using h place (Nat.lt_of_succ_lt_succ hplace)

theorem le_length (h : AgreeOn length recorded rerun) :
    length ≤ recorded.length ∧ length ≤ rerun.length := by
  cases length with
  | zero => simp
  | succ last =>
      obtain ⟨frame, again, hframe, hagain, -⟩ := h last (Nat.lt_succ_self last)
      exact ⟨(List.getElem?_eq_some_iff.mp hframe).1, (List.getElem?_eq_some_iff.mp hagain).1⟩

/-- Where agreement stops, it has reached its greatest length. -/
theorem isGreatest (h : AgreeOn length recorded rerun)
    (stop : ¬ AgreeOn (length + 1) recorded rerun) :
    IsGreatest {length | AgreeOn length recorded rerun} length := by
  refine ⟨h, ?_⟩
  intro more hmore
  by_contra hlt
  apply stop
  intro place hplace
  exact hmore place (by omega)

end Frame.AgreeOn

/-- What is told of two frames in one place, of which either may be missing. -/
def Divergence.between? : Option Frame → Option Frame → Option Divergence
  | some frame, some again =>
    some { tick := frame.tick, expected := frame.digest, actual := again.digest }
  | some frame, none =>
    some { tick := frame.tick, expected := frame.digest, actual := missingDigest }
  | none, some again =>
    some { tick := again.tick, expected := missingDigest, actual := again.digest }
  | none, none => none

theorem Divergence.between?_eq_none {frame again : Option Frame} :
    between? frame again = none ↔ frame = none ∧ again = none := by
  cases frame <;> cases again <;> simp [between?]

namespace Verification

open Infiltration.Frame (AgreeOn)

/-- A comparison goes on while frames agree, and tells what it finds where they stop. -/
theorem exists_compareFrom (matched : ℕ) (recorded rerun : List Frame) :
    ∃ length, AgreeOn length recorded rerun ∧ ¬ AgreeOn (length + 1) recorded rerun ∧
      compareFrom matched recorded rerun =
        { framesMatched := matched + length
          firstDivergence := Divergence.between? recorded[length]? rerun[length]? } := by
  fun_induction compareFrom matched recorded rerun with
  | case1 => exact ⟨0, .zero, fun h => by simpa using h.le_length, rfl⟩
  | case2 => exact ⟨0, .zero, fun h => by simpa using h.le_length, rfl⟩
  | case3 => exact ⟨0, .zero, fun h => by simpa using h.le_length, rfl⟩
  | case4 matched frame recorded again rerun hagree ih =>
      obtain ⟨length, h, stop, heq⟩ := ih
      rw [agree_iff] at hagree
      refine ⟨length + 1, ?_, ?_, ?_⟩
      · exact Frame.AgreeOn.cons_iff.mpr ⟨hagree, h⟩
      · simpa [Frame.AgreeOn.cons_iff, hagree] using stop
      · simp [heq, Nat.add_assoc, Nat.add_comm 1]
  | case5 matched frame recorded again rerun hagree =>
      rw [agree_iff] at hagree
      refine ⟨0, .zero, ?_, rfl⟩
      simp [Frame.AgreeOn.cons_iff, hagree]

/-- What a comparison of recorded frames with those of a run has to find: how many agree from the
start, and of the first place where they do not, its tick and both digests. -/
structure Finds (recorded rerun : List Frame) (verification : Verification) : Prop where
  matched : IsGreatest {length | AgreeOn length recorded rerun} verification.framesMatched
  none_iff : verification.firstDivergence = none ↔
    verification.framesMatched = recorded.length ∧ verification.framesMatched = rerun.length
  differing : ∀ frame again, recorded[verification.framesMatched]? = some frame →
    rerun[verification.framesMatched]? = some again →
    verification.firstDivergence =
      some { tick := frame.tick, expected := frame.digest, actual := again.digest }
  surplus : ∀ frame, recorded[verification.framesMatched]? = some frame →
    rerun[verification.framesMatched]? = none →
    verification.firstDivergence =
      some { tick := frame.tick, expected := frame.digest, actual := "missing" }
  shortfall : ∀ again, recorded[verification.framesMatched]? = none →
    rerun[verification.framesMatched]? = some again →
    ∃ tick, tick.toNat = verification.framesMatched ∧
      verification.firstDivergence = some { tick, expected := "missing", actual := again.digest }

/-- A comparison finds all this if the frames of the run are dated with their places. -/
theorem finds_compareFrom {recorded rerun : List Frame}
    (dated : ∀ (place : ℕ) (frame : Frame), rerun[place]? = some frame → frame.tick.toNat = place) :
    (compareFrom 0 recorded rerun).Finds recorded rerun := by
  obtain ⟨length, h, stop, heq⟩ := exists_compareFrom 0 recorded rerun
  rw [Nat.zero_add] at heq
  rw [heq]
  obtain ⟨hrecorded, hrerun⟩ := h.le_length
  constructor
  case matched => exact h.isGreatest stop
  case none_iff =>
    simp only [Divergence.between?_eq_none, List.getElem?_eq_none_iff]
    omega
  case differing =>
    intro frame again hframe hagain
    simp [hframe, hagain, Divergence.between?]
  case surplus =>
    intro frame hframe hagain
    simp [hframe, hagain, Divergence.between?, missingDigest]
  case shortfall =>
    intro again hframe hagain
    refine ⟨again.tick, dated length again hagain, ?_⟩
    simp [hframe, hagain, Divergence.between?, missingDigest]

/-- A comparison that finds no divergence has matched all frames. -/
theorem Finds.eq_of_identical {recorded rerun : List Frame} {verification : Verification}
    (finds : verification.Finds recorded rerun) (identical : verification.identical = true) :
    verification = { framesMatched := recorded.length, firstDivergence := none } := by
  have hnone : verification.firstDivergence = none := Option.isNone_iff_eq_none.mp identical
  obtain ⟨hmatched, -⟩ := finds.none_iff.mp hnone
  cases verification
  simp_all

end Verification

/-- Two configurations with one limit make runs that differ in the stored digests only. -/
theorem RunResult.simulate_of_limit_eq (level : Level) (cues : List Script.Cue)
    {original config : Config}
    (same : level.constraints.limitUnder original.ceiling =
      level.constraints.limitUnder config.ceiling) :
    simulate level cues config =
      (simulate level cues original).storing config.storeDigests := by
  have hmission : Mission.of level cues config =
      Mission.of level cues { original with storeDigests := config.storeDigests } := by
    simp [Mission.of, same]
  rw [← simulate_storing, simulate, simulate, hmission]

/-- The check of a recording finds how far it agrees with the run, and a recording of the same run
agrees throughout, whichever of the two stores its digests. -/
theorem verifyReplay_finds (level : Level) (cues : List Script.Cue) (recorded : List Frame)
    (config : Config) :
    (verifyReplay level cues recorded config).Finds recorded (simulate level cues config).frames ∧
      ∀ original : Config, level.constraints.limitUnder original.ceiling =
          level.constraints.limitUnder config.ceiling →
        verifyReplay level cues (simulate level cues original).frames config =
          { framesMatched := (simulate level cues original).frames.length
            firstDivergence := none } := by
  have hfinds (recorded : List Frame) : (verifyReplay level cues recorded config).Finds recorded
      (simulate level cues config).frames :=
    Verification.finds_compareFrom fun place frame h =>
      (RunResult.wellFormed_simulate.frame_at place frame h).tick_eq
  refine ⟨hfinds recorded, ?_⟩
  intro original same
  apply (hfinds _).eq_of_identical
  rw [verifyReplay, Verification.identical_compareFrom,
    RunResult.simulate_of_limit_eq level cues same, RunResult.storing, List.map_map]
  apply List.map_congr_left
  intro frame member
  exact (Frame.stamp_storing (RunResult.genuine_of_mem_simulate member) config.storeDigests).symm

/-- A recording without stored digests, made under a ceiling that is the level's own limit, is
checked with stored digests under the usual ceiling. -/
theorem verifyReplay_corridor_ceiling :
    corridor.constraints.limitUnder 3 = corridor.constraints.limitUnder 300 ∧
      verifyReplay corridor corridorCues
          (simulate corridor corridorCues { ceiling := 3, storeDigests := false }).frames {} =
        { framesMatched := 2, firstDivergence := none } := by
  have same : corridor.constraints.limitUnder 3 = corridor.constraints.limitUnder 300 := by decide
  have hlength :
      (simulate corridor corridorCues { ceiling := 3, storeDigests := false }).frames.length =
        2 := by
    decide +kernel
  have hcheck := (verifyReplay_finds corridor corridorCues [] {}).2
    { ceiling := 3, storeDigests := false } same
  rw [hlength] at hcheck
  exact ⟨same, hcheck⟩

end Infiltration
