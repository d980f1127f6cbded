import ZigAdvisor.Text.Basic

/-!
# Log records

Records have a level. Everything is recorded; a threshold decides what is shown.
-/

namespace ZigAdvisor

inductive LogLevel
  | debug
  | info
  | warning
  | error
deriving DecidableEq

namespace LogLevel

def name : LogLevel → String
  | debug => "DEBUG"
  | info => "INFO"
  | warning => "WARNING"
  | error => "ERROR"

def rank : LogLevel → Nat
  | debug => 10
  | info => 20
  | warning => 30
  | error => 40

/-- The threshold that a setting names; anything unknown stands for `info`. -/
def threshold (setting : Text) : Nat :=
  let known : List (Text × Nat) := [
    ("CRITICAL", 50), ("FATAL", 50), ("ERROR", 40), ("WARN", 30), ("WARNING", 30), ("INFO", 20),
    ("DEBUG", 10), ("NOTSET", 0)]
  (known.lookup setting).getD (rank info)

end LogLevel

structure LogRecord where
  level : LogLevel
  message : Text

namespace LogRecord

def shown (threshold : Nat) (records : List LogRecord) : List LogRecord :=
  records.filter fun r => threshold ≤ r.level.rank

end LogRecord

end ZigAdvisor
