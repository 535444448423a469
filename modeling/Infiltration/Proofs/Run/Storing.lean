import Infiltration.Proofs.Run.WellFormed

/-! # Storing digests

Whether a run stores its digests shows in the frames' stored digests and nowhere else. -/

namespace Infiltration

/-- The frame with its snapshot's digest stored, or with none. -/
def Frame.storing (store : Bool) (frame : Frame) : Frame :=
  { frame with storedDigest := if store then some frame.snapshot.digest else none }

def Mission.storing (store : Bool) (mission : Mission) : Mission :=
  { mission with storeDigests := store }

namespace Engine

/-- The engine as it stands, as if it had stored digests from the start, or had stored none. -/
def storing (store : Bool) (engine : Engine) : Engine :=
  { engine with
    mission := engine.mission.storing store
    recorded := engine.recorded.map (Frame.storing store) }

variable (store : Bool) (engine : Engine)

theorem play_storing : (engine.storing store).play = engine.play.storing store := by
  have hopened : (engine.storing store).opened = engine.opened := rfl
  have hclosed : (engine.storing store).closed = engine.closed := rfl
  have hentries : (engine.storing store).entries = engine.entries := rfl
  have hscene : (engine.storing store).scene = engine.scene.storing store := by
    rw [scene, hclosed, hentries]
    rfl
  rw [play_eq, play_eq, hopened, hclosed, hentries, hscene]
  rfl

theorem step_storing : (engine.storing store).step = engine.step.storing store :=
  step_commute (storing store) rfl fun _ => play_storing store engine

theorem runFor_storing (ticks : ℕ) :
    runFor ticks (engine.storing store) = (runFor ticks engine).storing store := by
  induction ticks generalizing engine with
  | zero => rfl
  | succ ticks ih => rw [runFor_succ, runFor_succ, step_storing, ih]

theorem run_storing : (engine.storing store).run = engine.run.storing store :=
  engine.runFor_storing store _

end Engine

/-! ## Results -/

namespace RunResult

/-- The result with the digests of all frames stored, or without. -/
def storing (store : Bool) (result : RunResult) : RunResult :=
  { result with frames := result.frames.map (Frame.storing store) }

theorem ofEngine_storing (store : Bool) (engine : Engine) :
    ofEngine (engine.storing store) = (ofEngine engine).storing store := by
  have hframes : (engine.storing store).frames = engine.frames.map (Frame.storing store) :=
    List.map_reverse.symm
  rw [storing, frames_ofEngine, ← hframes]
  rfl

theorem simulate_storing (level : Level) (cues : List Script.Cue) (config : Config)
    (store : Bool) :
    simulate level cues { config with storeDigests := store } =
      (simulate level cues config).storing store := by
  rw [simulate, simulate, ← ofEngine_storing, ← Engine.run_storing]
  rfl

end RunResult

/-! ## Frames that do not lie -/

/-- A frame whose digest is that of its snapshot, whether it is stored or not. -/
def Frame.Genuine (frame : Frame) : Prop := frame.digest = frame.snapshot.digest

theorem Frame.genuine_storing (store : Bool) (frame : Frame) : (frame.storing store).Genuine := by
  cases store <;> rfl

theorem Frame.digest_storing {frame : Frame} (genuine : frame.Genuine) (store : Bool) :
    (frame.storing store).digest = frame.digest :=
  (frame.genuine_storing store).trans genuine.symm

namespace RunResult

variable {level : Level} {cues : List Script.Cue} {config : Config}

theorem wellFormed_simulate :
    (simulate level cues config).WellFormed (Mission.of level cues config).limit cues
      config.storeDigests := by
  rw [simulate_eq]
  exact Mission.wellFormed_duration (Mission.of level cues config)

theorem genuine_of_mem_simulate {frame : Frame}
    (member : frame ∈ (simulate level cues config).frames) : frame.Genuine := by
  obtain ⟨place, hplace⟩ := List.mem_iff_getElem?.mp member
  have hstored := (wellFormed_simulate.frame_at place frame hplace).storedDigest_eq
  rw [Frame.Genuine, Frame.digest, hstored]
  cases config.storeDigests <;> rfl

end RunResult

end Infiltration
