/-!
# Log records

What a run tells about its steps, beside its results. A record has a level, a source and a message;
which records are shown is decided by a least level.
-/

namespace ClientGen.Log

/-- How important a record is. -/
inductive Level where
  | debug | info | warning | error
  deriving DecidableEq, Repr

namespace Level

/-- The rank of a level. -/
def rank : Level → Nat
  | debug => 0
  | info => 1
  | warning => 2
  | error => 3

/-- The name of a level. -/
def name : Level → String
  | debug => "DEBUG"
  | info => "INFO"
  | warning => "WARNING"
  | error => "ERROR"

end Level

/-- One thing that a run tells. -/
structure Record where
  level : Level
  source : String
  message : String
  deriving DecidableEq, Repr

/-- The line for a record. -/
def Record.line (r : Record) : String :=
  r.level.name ++ " " ++ r.source ++ ": " ++ r.message

/-- The records from a level on. -/
def atLeast (least : Level) (records : List Record) : List Record :=
  records.filter (least.rank ≤ ·.level.rank)

end ClientGen.Log
