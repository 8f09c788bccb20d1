import LocationDrift.Text.Basic
import LocationDrift.Time.Civil

/-!
# Log records

What the program cannot do it reports through named loggers, and goes on. A record has a level,
the name of the logger that made it, and a message.

**Writing records.** Until logging is set up, a record of level `WARNING` or above goes to the
last-resort handler, which writes its message alone on a line, and any other record is dropped.
Logging is set up with a level: from then on a record passes when its level is at least that one,
and it is written on a line as `time - LEVEL - [logger] - message`, the time to the second.
-/

namespace LocationDrift

/-- The levels of records, from the least to the most severe. -/
inductive LogLevel where
  | debug
  | info
  | warning
  | error
  | critical
deriving DecidableEq, Repr, Inhabited

namespace LogLevel

/-- The number of each level. -/
def value : LogLevel → Nat
  | debug => 10
  | info => 20
  | warning => 30
  | error => 40
  | critical => 50

/-- The name of each level. -/
def name : LogLevel → String
  | debug => "DEBUG"
  | info => "INFO"
  | warning => "WARNING"
  | error => "ERROR"
  | critical => "CRITICAL"

/-- The level a name gives. -/
def ofName? (t : Text) : Option LogLevel :=
  [debug, info, warning, error, critical].find? fun l => t == Text.ofString l.name

/-- A record of level `l` passes the threshold `t`. -/
def admits (t l : LogLevel) : Bool := t.value ≤ l.value

end LogLevel

/-- A record: its level, its logger's name and its message. -/
structure LogRecord where
  level : LogLevel
  logger : String
  message : Text
deriving DecidableEq, Repr, Inhabited

namespace LogRecord

/-- The time of a record, `seconds` after 1970-01-01 00:00: the date and the time of day, to the
second, as `YYYY-MM-DDTHH:MM:SS`. -/
def stamp (seconds : Int) : Text :=
  let (y, m, d) := Civil.civilFromDays (seconds / 86400)
  let t := (seconds % 86400).toNat
  let two (n : Nat) : Text := [48 + n / 10 % 10, 48 + n % 10]
  let year := Text.ofString (toString y)
  List.replicate (4 - year.length) 48 ++ year ++ [45] ++ two m ++ [45] ++ two d ++ [84] ++
    two (t / 3600) ++ [58] ++ two (t / 60 % 60) ++ [58] ++ two (t % 60)

/-- The line the handler set up with logging writes for a record made at the time `stamp`. -/
def line (stamp : Text) (r : LogRecord) : Text :=
  stamp ++ Text.ofString (" - " ++ r.level.name ++ " - [" ++ r.logger ++ "] - ") ++ r.message ++
    [10]

/-- The line the last-resort handler writes: the message alone. -/
def bareLine (r : LogRecord) : Text := r.message ++ [10]

end LogRecord

/-- What a run logs: the records made before logging was set up, the level it was set up with, and
the records made after that, in order. -/
structure RunLog where
  early : List LogRecord
  level : LogLevel
  records : List LogRecord
deriving DecidableEq, Repr, Inhabited

namespace RunLog

/-- What the records write to the error stream, those made after logging was set up stamped with
the time `stamp`. -/
def text (stamp : Text) (l : RunLog) : Text :=
  ((l.early.filter fun r => LogLevel.warning.admits r.level).map LogRecord.bareLine).flatten ++
    ((l.records.filter fun r => l.level.admits r.level).map (LogRecord.line stamp)).flatten

end RunLog

end LocationDrift
