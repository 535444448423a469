import Infiltration.Proofs.Script.Acceptance
import Infiltration.Proofs.Script.Execution

/-! # Upgrades never hurt

What a script has to keep to are upper bounds only. If the bonuses grow and the ceiling rises, a
script that was accepted still is, with the same cues, and runs as before. -/

namespace Infiltration

namespace Script

/-- Options that grant at least what others do. -/
structure Options.Upgrades (upgraded options : Options) : Prop where
  maxLines_le : options.bonus.maxLines ≤ upgraded.bonus.maxLines
  maxCommands_le : options.bonus.maxCommands ≤ upgraded.bonus.maxCommands
  maxDelay_le : options.bonus.maxDelay ≤ upgraded.bonus.maxDelay
  ceiling_le : options.ceiling ≤ upgraded.ceiling

/-- A second ceiling on both keeps an upgrade an upgrade. -/
theorem Options.Upgrades.under {upgraded options : Options} (more : upgraded.Upgrades options)
    (ceiling : UInt64) :
    Options.Upgrades { upgraded with ceiling := min upgraded.ceiling ceiling }
      { options with ceiling := min options.ceiling ceiling } where
  maxLines_le := more.maxLines_le
  maxCommands_le := more.maxCommands_le
  maxDelay_le := more.maxDelay_le
  ceiling_le := by
    have hmin (a b : UInt64) : min a b = if a ≤ b then a else b := rfl
    have hle := more.ceiling_le
    simp only [hmin]
    grind

theorem Within.mono {few many : ℕ} (le : few ≤ many) {ticks : UInt64} (within : Within few ticks) :
    Within many ticks :=
  ⟨within.1, within.2.trans le⟩

/-- Longer delays forbid nothing. -/
theorem Command.Lawful.mono {level : Level} {few many : ℕ} (le : few ≤ many) {command : Command}
    (lawful : command.Lawful level few) : command.Lawful level many := by
  cases command with
  | disableCamera camera duration =>
      exact ⟨lawful.1, fun ticks given => (lawful.2 ticks given).mono le⟩
  | delayAlarm ticks => exact ⟨lawful.1.mono le, lawful.2⟩
  | wait ticks => exact Within.mono le lawful
  | _ => exact lawful

section

variable {level : Level} {options upgraded : Options} (more : upgraded.Upgrades options)

include more

theorem Accepted.upgrade {lines : List (List Char × ℕ)} {commands : List Command}
    (accepted : Accepted level options lines commands) :
    Accepted level upgraded lines commands := by
  have hlines := UInt32.le_iff_toNat_le.mp more.maxLines_le
  have hcommands := UInt32.le_iff_toNat_le.mp more.maxCommands_le
  have hdelay := UInt64.le_iff_toNat_le.mp more.maxDelay_le
  have hceiling := UInt64.le_iff_toNat_le.mp more.ceiling_le
  refine ⟨accepted.spelled, ?_, ?_, ?_, ?_⟩
  · have hfew := accepted.few_lines
    omega
  · have hfew := accepted.few_commands
    omega
  · intro command member
    exact (accepted.lawful command member).mono (by omega)
  · rcases accepted.timely with hnone | htimely
    · exact .inl hnone
    · exact .inr (by omega)

theorem compile_upgrade {source : String} {cues : List Cue}
    (ok : compile level options source = .ok cues) : compile level upgraded source = .ok cues := by
  obtain ⟨commands, accepted, hcues⟩ := compile_eq_ok_iff.mp ok
  exact compile_eq_ok_iff.mpr ⟨commands, accepted.upgrade more, hcues⟩

theorem runScript_upgrade {source : String} {config : Config} {result : RunResult}
    (ok : runScript level source options config = .ok result) :
    runScript level source upgraded config = .ok result := by
  obtain ⟨sound, cues, hcompile, hresult⟩ := runScript_eq_ok.mp ok
  exact runScript_eq_ok.mpr ⟨sound, cues, compile_upgrade (more.under config.ceiling) hcompile, hresult⟩

end

/-- Where a script compiles it compiles into the same cues with all upgrades, and where it runs it
runs to the same result. -/
theorem upgrade_harmless (level : Level) (source : String) {options upgraded : Options}
    (more : upgraded.Upgrades options) :
    (∀ cues, compile level options source = .ok cues → compile level upgraded source = .ok cues) ∧
      ∀ config result, runScript level source options config = .ok result →
        runScript level source upgraded config = .ok result :=
  ⟨fun _ => compile_upgrade more, fun _ _ => runScript_upgrade more⟩

/-- The largest bonuses, with which no sum of allowances fits a word. -/
def boundlessOptions : Options :=
  { bonus :=
      { maxLines := UInt32.ofNat (UInt32.size - 1)
        maxCommands := UInt32.ofNat (UInt32.size - 1)
        maxDelay := UInt64.ofNat (UInt64.size - 1) }
    ceiling := UInt64.ofNat (UInt64.size - 1) }

theorem upgrade_harmless_boundless :
    boundlessOptions.Upgrades {} ∧
      compile corridor boundlessOptions corridorScript = .ok corridorCues ∧
      ∃ result, runScript corridor corridorScript {} { storeDigests := false } = .ok result ∧
        runScript corridor corridorScript boundlessOptions { storeDigests := false } = .ok result := by
  have more : boundlessOptions.Upgrades {} := ⟨by decide, by decide, by decide, by decide⟩
  obtain ⟨hcompile, hrun⟩ := upgrade_harmless corridor corridorScript more
  have hcues : compile corridor {} corridorScript = .ok corridorCues := by decide
  have hresult : runScript corridor corridorScript {} { storeDigests := false } =
      .ok (simulate corridor corridorCues { storeDigests := false }) :=
    runScript_eq_ok.mpr ⟨by decide, corridorCues, hcues, rfl⟩
  exact ⟨more, hcompile _ hcues, _, hresult, hrun _ _ hresult⟩

end Script

end Infiltration
