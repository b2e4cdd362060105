import SearchClient.Decimal.Digits

set_option autoImplicit false

/-! # Log events

An event has a level, a logger whose name has parts with dots between them, and a message. Levels
are numbers; the standard ones have names. -/

namespace SearchClient.Logging

/-- The importance of an event. -/
abbrev Level := Int

namespace Level

def debug : Level := 10
def info : Level := 20
def warning : Level := 30
def error : Level := 40
def critical : Level := 50

/-- The standard levels that have names, with these. -/
def standard : List (Level × String) :=
  [(debug, "DEBUG"), (info, "INFO"), (warning, "WARNING"), (error, "ERROR"),
   (critical, "CRITICAL")]

/-- The name of a level; one that has none is told by its number. -/
def name (l : Level) : String :=
  match standard.lookup l with
  | some name => name
  | none => String.ofList ("Level ".toList ++ Decimal.ofInt l)

end Level

/-- Something that was logged. -/
structure Event where
  level : Level
  logger : String
  message : String
deriving DecidableEq

end SearchClient.Logging
