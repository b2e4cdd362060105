import SearchClient.Logging.Event
import SearchClient.Logging.Template

set_option autoImplicit false

/-! # Loggers

Loggers stand below one another by their names. One that has no level of its own has that of the
nearest one above it that has one, and in the end that of the root of all. What is logged from its
level on goes to the handlers of the root, and each of them writes it. -/

namespace SearchClient.Logging

/-- How events are written. -/
inductive Renderer where
  /-- Each event as a JSON object on a line. -/
  | json
  /-- Each event as text for people. -/
  | console
deriving DecidableEq

/-- Something to be logged: a template and its arguments. -/
structure Entry where
  logger : String
  level : Level
  template : String
  args : List Value

/-- The event of an entry, if its arguments fit its template. The logger without a name is the root
    of all. -/
def Entry.event? (e : Entry) : Option Event :=
  (Template.fill? e.template e.args).map fun message =>
    ⟨e.level, if e.logger.isEmpty then "root" else e.logger, message⟩

/-- The entry of an event, whose message stands as it is. -/
def Event.entry (e : Event) : Entry :=
  ⟨e.logger, e.level, e.message, []⟩

/-- The loggers of a process. -/
structure Loggers where
  /-- The level of the root of all. -/
  root : Level
  /-- The levels that loggers have been given; zero is none. -/
  own : Entries Level
  /-- The loggers that have been asked for. -/
  known : List String
  /-- How the handlers of the root write. -/
  handlers : List Renderer

namespace Loggers

/-- The known names above one, the nearest first. All are read from their ends. A name is above
    another one if that goes on behind it with a dot; where a name is not known, the character at its
    end is passed over with the dot. -/
def above (known : List Char → Bool) : List Char → List (List Char)
  | '.' :: c :: cs =>
    if known (c :: cs) then (c :: cs) :: above known (c :: cs) else above known cs
  | _ :: cs => above known cs
  | [] => []

/-- A logger and the known ones above it, the nearest first. -/
def path (l : Loggers) (logger : String) : List String :=
  let known (cs : List Char) : Bool := l.known.contains (String.ofList cs.reverse)
  logger :: (above known logger.toList.reverse).map fun cs => String.ofList cs.reverse

/-- The level that a logger has been given. -/
def ownLevel? (l : Loggers) (logger : String) : Option Level :=
  (l.own.get? logger).filter (· ≠ 0)

/-- The level from which on a logger writes. -/
def levelOf (l : Loggers) (logger : String) : Level :=
  ((l.path logger).findSome? l.ownLevel?).getD l.root

/-- Whether a logger writes entries of a level. Levels that are not above zero are never written. -/
def writes (l : Loggers) (logger : String) (level : Level) : Bool :=
  decide (0 < level) && decide (l.levelOf logger ≤ level)

/-- What is written for an entry. One whose arguments do not fit is lost. -/
def hear (l : Loggers) (e : Entry) : List (Renderer × Event) :=
  if l.writes e.logger e.level then
    l.handlers.flatMap fun r => e.event?.toList.map fun event => (r, event)
  else []

/-- What is written for entries, one after the other. -/
def log (l : Loggers) (entries : List Entry) : List (Renderer × Event) :=
  entries.flatMap l.hear

end Loggers

end SearchClient.Logging
