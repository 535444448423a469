import Infiltration.Device
import Infiltration.Event
import Infiltration.Script.Command

/-!
What can happen during a tick, and how it is entered in the log. Each occurrence fixes the kind, the
category, the line and the facts of its event; number and tick come with the entry.
-/

namespace Infiltration

inductive Occurrence where
  | lineExecuted (line : UInt32) (command : Script.Command)
  | cameraDisabled (line : UInt32) (camera : String) (duration : Option UInt64)
  /-- A camera came back: by a script line, or by itself when its time was over. -/
  | cameraEnabled (line : Option UInt32) (camera : String)
  | alarmDelayed (line : UInt32) (amount : UInt64)
  | doorOpened (line : UInt32) (door : String)
  | doorClosed (line : UInt32) (door : String)
  | turretRetargeted (line : UInt32) (turret target : String)
  | deviceTagged (line : UInt32) (device tag : String)
  | logged (line : UInt32) (message : String)
  | playerDetected (camera : String)
  | alarmChanged (old new : AlarmLevel)
  | doorLockedDown (door : String)
  | targetLocked (turret target : String)
  | turretFired (turret target : String)
  | playerKilled (turret : String)
  | droneDestroyed (drone turret : String)
  | playerBlocked (door : String)
  | exitReached
  | timedOut (limit : UInt64)
  deriving DecidableEq, Repr

namespace Occurrence

def kind : Occurrence → EventKind
  | lineExecuted _ _ => .scriptLineExecuted
  | cameraDisabled _ _ _ => .deviceDisabled
  | cameraEnabled _ _ => .deviceEnabled
  | alarmDelayed _ _ => .alarmDelayApplied
  | doorOpened _ _ => .doorOpened
  | doorClosed _ _ => .doorClosed
  | turretRetargeted _ _ _ => .turretRetargeted
  | deviceTagged _ _ _ => .deviceTagged
  | logged _ _ => .log
  | playerDetected _ => .cameraDetectedPlayer
  | alarmChanged _ _ => .alarmStateChanged
  | doorLockedDown _ => .doorClosed
  | targetLocked _ _ => .turretTargetLock
  | turretFired _ _ => .turretFired
  | playerKilled _ => .playerKilled
  | droneDestroyed _ _ => .droneDestroyed
  | playerBlocked _ => .playerBlockedByDoor
  | exitReached => .playerReachedExit
  | timedOut _ => .runTimeout

def category : Occurrence → Category
  | lineExecuted _ _ => .script
  | cameraDisabled _ _ _ => .script
  | cameraEnabled (some _) _ => .script
  | cameraEnabled none _ => .system
  | alarmDelayed _ _ => .script
  | doorOpened _ _ => .script
  | doorClosed _ _ => .script
  | turretRetargeted _ _ _ => .script
  | deviceTagged _ _ _ => .script
  | logged _ _ => .script
  | playerDetected _ => .detection
  | alarmChanged _ _ => .alarm
  | doorLockedDown _ => .alarm
  | targetLocked _ _ => .combat
  | turretFired _ _ => .combat
  | playerKilled _ => .combat
  | droneDestroyed _ _ => .combat
  | playerBlocked _ => .movement
  | exitReached => .movement
  | timedOut _ => .system

/-- The script line that caused the occurrence. -/
def line? : Occurrence → Option UInt32
  | lineExecuted line _ => some line
  | cameraDisabled line _ _ => some line
  | cameraEnabled line _ => line
  | alarmDelayed line _ => some line
  | doorOpened line _ => some line
  | doorClosed line _ => some line
  | turretRetargeted line _ _ => some line
  | deviceTagged line _ _ => some line
  | logged line _ => some line
  | _ => none

def facts : Occurrence → List (String × Fact)
  | lineExecuted line command =>
    [("deviceId", .ofText? command.device?), ("kind", .text command.label), ("line", .count line.toUInt64)]
  | cameraDisabled _ camera duration => [("deviceId", .text camera), ("duration", .ofCount? duration)]
  | cameraEnabled _ camera => [("deviceId", .text camera)]
  | alarmDelayed _ amount => [("amount", .count amount)]
  | doorOpened _ door => [("doorId", .text door)]
  | doorClosed _ door => [("doorId", .text door)]
  | turretRetargeted _ turret target => [("targetId", .text target), ("turretId", .text turret)]
  | deviceTagged _ device tag => [("deviceId", .text device), ("tag", .text tag)]
  | logged _ message => [("message", .text message)]
  | playerDetected camera => [("cameraId", .text camera)]
  | alarmChanged old new => [("from", .text old.name), ("to", .text new.name)]
  | doorLockedDown door => [("doorId", .text door), ("reason", .text "alarm_lockdown")]
  | targetLocked turret target => [("targetId", .text target), ("turretId", .text turret)]
  | turretFired turret target => [("targetId", .text target), ("turretId", .text turret)]
  | playerKilled turret => [("turretId", .text turret)]
  | droneDestroyed drone turret => [("droneId", .text drone), ("turretId", .text turret)]
  | playerBlocked door => [("doorId", .text door)]
  | exitReached => [("exit", .text "goal")]
  | timedOut limit => [("tickLimit", .count limit)]

/-- The log entry of an occurrence. -/
def event (occurrence : Occurrence) (id tick : UInt64) : Event where
  id := id
  tick := tick
  kind := occurrence.kind
  category := occurrence.category
  line := occurrence.line?
  payload := Payload.ofList occurrence.facts

end Occurrence

/-- Enter occurrences of one tick, numbered on from a count of earlier events. -/
def enterFrom (entered : Nat) (tick : UInt64) : List Occurrence → List Event
  | [] => []
  | occurrence :: rest =>
    occurrence.event (UInt64.ofNat (entered + 1)) tick :: enterFrom (entered + 1) tick rest

theorem length_enterFrom (entered : Nat) (tick : UInt64) (occurrences : List Occurrence) :
    (enterFrom entered tick occurrences).length = occurrences.length := by
  induction occurrences generalizing entered with
  | nil => rfl
  | cons occurrence rest ih => simp [enterFrom, ih]

theorem getElem?_enterFrom (entered : Nat) (tick : UInt64) (occurrences : List Occurrence) (i : Nat) :
    (enterFrom entered tick occurrences)[i]? =
      occurrences[i]?.map fun occurrence => occurrence.event (UInt64.ofNat (entered + i + 1)) tick := by
  induction occurrences generalizing entered i with
  | nil => rfl
  | cons occurrence rest ih =>
    cases i with
    | zero => rfl
    | succ i =>
      simp only [enterFrom, List.getElem?_cons_succ, ih]
      rw [Nat.add_assoc entered 1 i, Nat.add_comm 1 i]

theorem mem_enterFrom {entered : Nat} {tick : UInt64} {occurrences : List Occurrence} {event : Event}
    (h : event ∈ enterFrom entered tick occurrences) :
    ∃ occurrence ∈ occurrences, ∃ id, event = occurrence.event id tick := by
  obtain ⟨i, hi⟩ := List.mem_iff_getElem?.1 h
  rw [getElem?_enterFrom, Option.map_eq_some_iff] at hi
  obtain ⟨occurrence, hoccurrence, rfl⟩ := hi
  exact ⟨occurrence, List.mem_of_getElem? hoccurrence, _, rfl⟩

theorem enterFrom_append (entered : Nat) (tick : UInt64) (front back : List Occurrence) :
    enterFrom entered tick (front ++ back) =
      enterFrom entered tick front ++ enterFrom (entered + front.length) tick back := by
  induction front generalizing entered with
  | nil => rfl
  | cons occurrence rest ih =>
    simp only [List.cons_append, enterFrom, ih, List.length_cons]
    rw [Nat.add_assoc, Nat.add_comm 1]

end Infiltration
