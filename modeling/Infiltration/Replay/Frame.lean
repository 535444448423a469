import Infiltration.Format.Event
import Infiltration.Replay.Snapshot

/-!
A frame records one tick: the snapshot at its end, its events, the script lines it carried out and, if
the run stores them, the snapshot's digest.
-/

namespace Infiltration

open Json

structure Frame where
  tick : UInt64
  snapshot : Snapshot
  events : List Event
  executedLines : List UInt32
  storedDigest : Option String := none
  deriving DecidableEq, Repr

namespace Frame

/-- The stored digest, or else the snapshot's. -/
def digest (frame : Frame) : String := frame.storedDigest.getD frame.snapshot.digest

def toJson (frame : Frame) : Json :=
  .object <|
    [("tick", ofWord64 frame.tick), ("snapshot", frame.snapshot.toJson),
      ("events", Log.toJson frame.events), ("executedLines", Json.ofList ofWord32 frame.executedLines)] ++
    memberIf "hash" .string frame.storedDigest

def ofJson? (json : Json) : Option Frame := do
  let members ← json.record? ["tick", "snapshot", "events", "executedLines", "hash"] 4
  let tick ← members.required "tick" word64?
  let snapshot ← members.required "snapshot" Snapshot.ofJson?
  let events ← members.required "events" Log.ofJson?
  let executedLines ← members.required "executedLines" (list? word32?)
  let storedDigest ← members.optional "hash" string?
  some { tick, snapshot, events, executedLines, storedDigest }

end Frame

end Infiltration
