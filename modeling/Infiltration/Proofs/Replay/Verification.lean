import Infiltration.Proofs.Digest
import Infiltration.Proofs.Format
import Infiltration.Proofs.Run.Storing

/-! # What a verified recording has in common with its run

A comparison looks at ticks and digests. It takes stored digests at their word, and no digest covers
events or executed lines. -/

namespace Infiltration

open RunResult (genuine_of_mem_simulate simulate_storing)

/-- All that is compared of a frame. -/
def Frame.stamp (frame : Frame) : UInt64 × String := (frame.tick, frame.digest)

theorem Frame.stamp_storing {frame : Frame} (genuine : frame.Genuine) (store : Bool) :
    (frame.storing store).stamp = frame.stamp :=
  Prod.ext rfl (digest_storing genuine store)

namespace Verification

theorem agree_iff {recorded rerun : Frame} :
    agree recorded rerun = true ↔ recorded.stamp = rerun.stamp := by
  simp [agree, Frame.stamp]

/-- Nothing diverges just where all stamps are the same and no frame stands alone. -/
theorem identical_compareFrom (matched : ℕ) (recorded rerun : List Frame) :
    (compareFrom matched recorded rerun).identical = true ↔
      recorded.map Frame.stamp = rerun.map Frame.stamp := by
  fun_induction compareFrom matched recorded rerun with
  | case1 => simp [identical]
  | case2 => simp [identical]
  | case3 => simp [identical]
  | case4 matched recorded moreRecorded rerun moreRerun hagree ih =>
      rw [ih, List.map_cons, List.map_cons, List.cons.injEq, agree_iff.mp hagree]
      simp
  | case5 matched recorded moreRecorded rerun moreRerun hagree =>
      rw [agree_iff] at hagree
      simp [identical, hagree]

/-- Genuine frames with one stamp have one snapshot, unless the snapshots' bytes collide. -/
theorem snapshot_of_stamp {frame again : Frame} (genuine : frame.Genuine) (genuine' : again.Genuine)
    (h : frame.stamp = again.stamp) :
    frame.snapshot = again.snapshot ∨
      Blake3.Collision [frame.snapshot.bytes, again.snapshot.bytes] := by
  have hdigest : Blake3.hex frame.snapshot.bytes = Blake3.hex again.snapshot.bytes :=
    (genuine.symm.trans (Prod.mk.inj h).2).trans genuine'
  by_cases safe : Blake3.Collision [frame.snapshot.bytes, again.snapshot.bytes]
  · exact .inr safe
  · exact .inl (Snapshot.bytes_injective (Blake3.eq_of_hex safe (by simp) (by simp) hdigest))

end Verification

/-- A recording is confirmed just if its frames have the ticks and digests of the run. Then those of
its frames that are genuine have the snapshots of the run, unless the snapshots' bytes collide. -/
theorem verifyReplay_identical (level : Level) (cues : List Script.Cue) (recorded : List Frame)
    (config : Config) :
    ((verifyReplay level cues recorded config).identical = true ↔
      recorded.map Frame.stamp = (simulate level cues config).frames.map Frame.stamp) ∧
    ((verifyReplay level cues recorded config).identical = true →
      ∀ (place : ℕ) (frame again : Frame), recorded[place]? = some frame →
        (simulate level cues config).frames[place]? = some again → frame.Genuine →
          frame.snapshot = again.snapshot ∨
            Blake3.Collision [frame.snapshot.bytes, again.snapshot.bytes]) := by
  have hstamps := Verification.identical_compareFrom 0 recorded (simulate level cues config).frames
  refine ⟨hstamps, ?_⟩
  intro hidentical place frame again hframe hagain genuine
  have hplace := congrArg (fun stamps => stamps[place]?) (hstamps.mp hidentical)
  simp only [List.getElem?_map, hframe, hagain, Option.map_some] at hplace
  exact Verification.snapshot_of_stamp genuine
    (genuine_of_mem_simulate (List.mem_of_getElem? hagain)) (Option.some.inj hplace)

/-- A recording without stored digests is confirmed by a run that stores them. -/
theorem verifyReplay_corridor :
    (verifyReplay corridor corridorCues
        (simulate corridor corridorCues { storeDigests := false }).frames {}).identical = true ∧
      ∃ frame again,
        (simulate corridor corridorCues { storeDigests := false }).frames[1]? = some frame ∧
        (simulate corridor corridorCues {}).frames[1]? = some again ∧ frame.Genuine ∧
        (frame.snapshot = again.snapshot ∨
          Blake3.Collision [frame.snapshot.bytes, again.snapshot.bytes]) := by
  have hstoring : simulate corridor corridorCues {} =
      (simulate corridor corridorCues { storeDigests := false }).storing true :=
    simulate_storing corridor corridorCues { storeDigests := false } true
  obtain ⟨hstamps, hsnapshots⟩ := verifyReplay_identical corridor corridorCues
    (simulate corridor corridorCues { storeDigests := false }).frames {}
  have hidentical : (verifyReplay corridor corridorCues
      (simulate corridor corridorCues { storeDigests := false }).frames {}).identical = true := by
    rw [hstamps, hstoring, RunResult.storing, List.map_map]
    apply List.map_congr_left
    exact fun frame member => (Frame.stamp_storing (genuine_of_mem_simulate member) true).symm
  obtain ⟨frame, hframe⟩ : ∃ frame,
      (simulate corridor corridorCues { storeDigests := false }).frames[1]? = some frame :=
    Option.isSome_iff_exists.mp (by decide +kernel)
  have hagain : (simulate corridor corridorCues {}).frames[1]? = some (frame.storing true) := by
    rw [hstoring, RunResult.storing, List.getElem?_map, hframe, Option.map_some]
  have genuine : frame.Genuine := genuine_of_mem_simulate (List.mem_of_getElem? hframe)
  exact ⟨hidentical, frame, frame.storing true, hframe, hagain, genuine,
    hsnapshots hidentical 1 frame (frame.storing true) hframe hagain genuine⟩

/-! ## A forgery -/

/-- One cell that is entry and exit at once. -/
def booth : Level where
  id := "booth"
  map := { width := 1, height := 1 }
  entry := ⟨0, 0⟩
  exit := ⟨0, 0⟩
  playerPath := [⟨0, 0⟩]
  devices := []
  networkScope := []
  constraints := { maxLines := 1, maxCommands := 1, maxDelay := 1, tickLimit := 1 }

def boothCues : List Script.Cue :=
  [{ tick := 0, line := 1, raw := "log(\"hello\")", command := .log "hello" }]

/-- The frame with its player at another place of the path, and whatever digest it had stored. -/
def Frame.displaced (frame : Frame) (pathIndex : ℕ) : Frame :=
  { frame with
    snapshot :=
      { frame.snapshot with player := { frame.snapshot.player with pathIndex } } }

/-- A recording of a script that logs a message, with the player displaced afterwards. -/
def forgery : List Frame :=
  (simulate booth boothCues {}).frames.map fun frame => frame.displaced 99

/-- The byte strings that are hashed for a comparison: those of the run's snapshots, and of the
recorded snapshots that have no digest stored. -/
def Verification.hashed (recorded rerun : List Frame) : List ByteArray :=
  (rerun ++ recorded.filter fun frame => frame.storedDigest.isNone).map fun frame =>
    frame.snapshot.bytes

/-- What the forgery and the run it passes for differ in, and their tick. -/
def Frame.outline (frame : Frame) : UInt64 × ℕ × ℕ × List UInt32 :=
  (frame.tick, frame.snapshot.player.pathIndex, frame.events.length, frame.executedLines)

/-- Both scripts lead to the same snapshot. -/
theorem frames_booth :
    ∃ frame again, (simulate booth boothCues { storeDigests := false }).frames = [frame] ∧
      (simulate booth [] { storeDigests := false }).frames = [again] ∧
      frame.snapshot = again.snapshot ∧ frame.outline = (0, 0, 3, [1]) ∧
      again.outline = (0, 0, 1, []) := by
  have hsnapshots : (simulate booth boothCues { storeDigests := false }).frames.map Frame.snapshot =
      (simulate booth [] { storeDigests := false }).frames.map Frame.snapshot := by
    decide +kernel
  have houtlines : (simulate booth boothCues { storeDigests := false }).frames.map Frame.outline =
      [(0, 0, 3, [1])] := by
    decide +kernel
  have houtlines' : (simulate booth [] { storeDigests := false }).frames.map Frame.outline =
      [(0, 0, 1, [])] := by
    decide +kernel
  obtain ⟨frame, hframes, houtline⟩ := List.map_eq_singleton_iff.mp houtlines
  obtain ⟨again, hframes', houtline'⟩ := List.map_eq_singleton_iff.mp houtlines'
  rw [hframes, hframes'] at hsnapshots
  exact ⟨frame, again, hframes, hframes', (List.cons.inj hsnapshots).1, houtline, houtline'⟩

/-- The forgery passes for a run of the empty script, though only one byte string was hashed: its
stored digest stands for a snapshot that it no longer has, and nothing stands for the events. -/
theorem verifyReplay_forgery :
    (verifyReplay booth [] forgery {}).identical = true ∧
      (∃ frame again, forgery = [frame] ∧ (simulate booth [] {}).frames = [again] ∧
        frame.snapshot ≠ again.snapshot ∧ frame.events ≠ again.events ∧
        frame.executedLines ≠ again.executedLines) ∧
      ¬ Blake3.Collision (Verification.hashed forgery (simulate booth [] {}).frames) := by
  obtain ⟨frame, again, hframes, hframes', hsnapshot, houtline, houtline'⟩ := frames_booth
  have hstoring (cues : List Script.Cue) : simulate booth cues {} =
      (simulate booth cues { storeDigests := false }).storing true :=
    simulate_storing booth cues { storeDigests := false } true
  have hforgery : forgery = [(frame.storing true).displaced 99] := by
    rw [forgery, hstoring, RunResult.storing, hframes]
    rfl
  have hrerun : (simulate booth [] {}).frames = [again.storing true] := by
    rw [hstoring, RunResult.storing, hframes']
    rfl
  simp only [Frame.outline, Prod.mk.injEq] at houtline houtline'
  refine ⟨?_, ⟨_, _, hforgery, hrerun, ?_, ?_, ?_⟩, ?_⟩
  · rw [verifyReplay, Verification.identical_compareFrom, hforgery, hrerun]
    change [(frame.tick, frame.snapshot.digest)] = [(again.tick, again.snapshot.digest)]
    rw [houtline.1, houtline'.1, hsnapshot]
  · intro h
    have hplace : 99 = again.snapshot.player.pathIndex :=
      congrArg (fun snapshot => snapshot.player.pathIndex) h
    omega
  · intro h
    have hlength : frame.events.length = again.events.length := congrArg List.length h
    omega
  · intro h
    have hlines : frame.executedLines = again.executedLines := h
    rw [houtline.2.2.2, houtline'.2.2.2] at hlines
    simp at hlines
  · rw [hforgery, hrerun]
    exact Blake3.not_collision_singleton _

end Infiltration
