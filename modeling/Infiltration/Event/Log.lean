import Infiltration.Event

/-!
Questions to a log. A log is a list of events in the order in which they were entered.
-/

namespace Infiltration

abbrev Log := List Event

namespace Log

def ofKind (log : Log) (kind : EventKind) : List Event :=
  log.filter fun event => event.kind = kind

def atTick (log : Log) (tick : UInt64) : List Event :=
  log.filter fun event => event.tick = tick

/-- The events that a script line caused. -/
def forLine (log : Log) (line : UInt32) : List Event :=
  log.filter fun event => event.line = some line

/-- The last event of a kind. -/
def findLast? (log : Log) (kind : EventKind) : Option Event :=
  log.reverse.find? fun event => event.kind = kind

/-- The last entered event of a kind among those that are not after a tick. -/
def findLastUntil? (log : Log) (kind : EventKind) (tick : UInt64) : Option Event :=
  findLast? (log.filter fun event => event.tick ≤ tick) kind

end Log

end Infiltration
