import Infiltration.Run

/-!
Checking a recording against a run of its own. Frames are compared by tick and digest, and the first that
differs, or that only one side has, ends the comparison.
-/

namespace Infiltration

structure Divergence where
  tick : UInt64
  expected : String
  actual : String
  deriving DecidableEq, Repr

structure Verification where
  framesMatched : Nat
  firstDivergence : Option Divergence
  deriving DecidableEq, Repr

/-- What stands for the digest of a frame that is not there. -/
def missingDigest : String := "missing"

namespace Verification

def identical (verification : Verification) : Bool := verification.firstDivergence.isNone

/-- Whether two frames agree in tick and digest. -/
def agree (recorded rerun : Frame) : Bool :=
  recorded.tick = rerun.tick && recorded.digest = rerun.digest

/-- Compare frames after a number of them has matched. -/
def compareFrom (framesMatched : Nat) : List Frame → List Frame → Verification
  | [], [] => { framesMatched, firstDivergence := none }
  | recorded :: _, [] =>
    { framesMatched
      firstDivergence :=
        some { tick := recorded.tick, expected := recorded.digest, actual := missingDigest } }
  | [], rerun :: _ =>
    { framesMatched
      firstDivergence := some { tick := rerun.tick, expected := missingDigest, actual := rerun.digest } }
  | recorded :: moreRecorded, rerun :: moreRerun =>
    if agree recorded rerun then compareFrom (framesMatched + 1) moreRecorded moreRerun
    else
      { framesMatched
        firstDivergence :=
          some { tick := recorded.tick, expected := recorded.digest, actual := rerun.digest } }

end Verification

/-- Run cues on a level and compare the frames with recorded ones. -/
def verifyReplay (level : Level) (cues : List Script.Cue) (recorded : List Frame) (config : Config) :
    Verification :=
  Verification.compareFrom 0 recorded (simulate level cues config).frames

end Infiltration
