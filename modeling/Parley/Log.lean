namespace Parley

inductive LogLevel
  | info
  | warn
  | error
  deriving DecidableEq, Repr

def LogLevel.name : LogLevel → String
  | .info => "INFO"
  | .warn => "WARN"
  | .error => "ERROR"

structure LogEntry where
  level : LogLevel
  text : String
  deriving DecidableEq, Repr

end Parley
