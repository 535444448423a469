import Infiltration.Digest.Blake3
import Infiltration.Format.World
import Infiltration.Json.Printer

/-!
A snapshot is what a run has come to at the end of a tick. Its digest is that of its compact JSON text.
-/

namespace Infiltration

open Json

structure Snapshot where
  tick : UInt64
  player : Player
  devices : Roster
  alarmLevel : AlarmLevel
  deriving DecidableEq, Repr

/-- The digest of a text's bytes. -/
def textDigest (text : String) : String := Blake3.hex text.toUTF8

namespace Snapshot

def ofWorld (world : World) : Snapshot where
  tick := world.tick
  player := world.player
  devices := world.devices
  alarmLevel := world.alarmLevel

def toJson (snapshot : Snapshot) : Json :=
  .object [("tick", ofWord64 snapshot.tick), ("player", snapshot.player.toJson),
    ("devices", snapshot.devices.toJson), ("alarmState", snapshot.alarmLevel.toJson)]

def ofJson? (json : Json) : Option Snapshot := do
  let members ← json.record? ["tick", "player", "devices", "alarmState"] 4
  let tick ← members.required "tick" word64?
  let player ← members.required "player" Player.ofJson?
  let devices ← members.required "devices" Roster.ofJson?
  let alarmLevel ← members.required "alarmState" AlarmLevel.ofJson?
  some { tick, player, devices, alarmLevel }

def digest (snapshot : Snapshot) : String := textDigest snapshot.toJson.compact

end Snapshot

end Infiltration
