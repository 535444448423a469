import Infiltration.Format.Script
import Infiltration.Main
import Infiltration.Proofs.Roster
import Infiltration.Proofs.Tick.Deed
import Infiltration.Proofs.Tick.Series
import Infiltration.Proofs.Run.Trace
import Infiltration.Proofs.Run.WellFormed
import Infiltration.Proofs.Run.Ending
import Infiltration.Proofs.Run.Retelling
import Infiltration.Proofs.Level
import Infiltration.Proofs.Script.Compile
import Infiltration.Proofs.Script.Execution
import Infiltration.Proofs.Json.Text
import Infiltration.Proofs.Run.Causality
import Infiltration.Proofs.Script.Acceptance
import Infiltration.Proofs.Digest
import Infiltration.Proofs.Format
import Infiltration.Proofs.Run.Storing
import Infiltration.Proofs.Run.Fingerprint
import Infiltration.Proofs.Replay.Verification
import Infiltration.Proofs.Replay.CommonPrefix
import Infiltration.Proofs.Run.Truncation
import Infiltration.Proofs.Tick.Escalation
import Infiltration.Proofs.Run.Provocation
import Infiltration.Proofs.Json.Form
import Infiltration.Proofs.Format.Reading
import Infiltration.Proofs.Tick.Persistence
import Infiltration.Proofs.Tick.Turn
import Infiltration.Proofs.Run.Stint
import Infiltration.Proofs.Run.Shot
import Infiltration.Proofs.Run.Aim
import Infiltration.Proofs.Run.Lock
import Infiltration.Proofs.Tick.Alarm
import Infiltration.Proofs.Run.AlarmTimeline
import Infiltration.Proofs.Run.Motion
import Infiltration.Proofs.Run.Detection
import Infiltration.Proofs.Run.LastSwitch
import Infiltration.Proofs.Run.Patrol
import Infiltration.Proofs.Script.Grammar
import Infiltration.Proofs.Script.Locality
import Infiltration.Proofs.Script.Inspection
import Infiltration.Proofs.Run.Lockdown
import Infiltration.Proofs.Script.Upgrade
import Infiltration.Proofs.Script.Blanking
import Infiltration.Proofs.Failure
import Infiltration.Proofs.Run.Lockstep
import Infiltration.Proofs.Tick.Orders
import Infiltration.Proofs.Tick.Tags
import Infiltration.Proofs.Tick.Exchange
import Infiltration.Proofs.Run.Passivity
import Infiltration.Proofs.Run.Exchange
import Infiltration.Proofs.Run.Bounds
import Infiltration.Proofs.Run.Fixtures
import Infiltration.Proofs.Run.Explanation
import Infiltration.Proofs.Run.KillStory
import Infiltration.Proofs.Level.FirstFault
import Infiltration.Proofs.Run.OpenWay
import Infiltration.Proofs.Run.Blame
import Infiltration.Proofs.Run.Order
import Infiltration.Proofs.Run.Stepping
