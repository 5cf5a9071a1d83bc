/-!
# Log records

A record has a level, the name of the logger that it was given to, and a message. An operation that
logs but has no other effect yields its value together with the records, in order.
-/

namespace CommandTelemetry.Log

inductive Level where
  | debug
  | info
  | warning
  | error
  | critical
  deriving DecidableEq, Repr

def Level.all : List Level := [.debug, .info, .warning, .error, .critical]

def Level.name : Level → String
  | debug => "DEBUG"
  | info => "INFO"
  | warning => "WARNING"
  | error => "ERROR"
  | critical => "CRITICAL"

structure Record where
  level : Level
  logger : String
  message : String
  deriving DecidableEq, Repr

/-- A record on one line. -/
def Record.line (r : Record) : String := s!"{r.level.name} {r.logger}: {r.message}"

end CommandTelemetry.Log

namespace CommandTelemetry

/-- A value and the records that were logged on the way to it. -/
structure Logged (α : Type) where
  value : α
  records : List Log.Record := []

namespace Logged

def map {α β : Type} (f : α → β) (x : Logged α) : Logged β := ⟨f x.value, x.records⟩

instance : Monad Logged where
  pure v := ⟨v, []⟩
  bind x f := ⟨(f x.value).value, x.records ++ (f x.value).records⟩

/-- A value with one record. -/
def warn {α : Type} (logger message : String) (v : α) : Logged α :=
  ⟨v, [⟨.warning, logger, message⟩]⟩

end Logged

end CommandTelemetry
