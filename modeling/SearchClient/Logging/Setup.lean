import SearchClient.Failure.Problem
import SearchClient.Json.Writer
import SearchClient.Logging.Loggers
import SearchClient.Text.Blank
import SearchClient.Text.Capital

set_option autoImplicit false

/-! # Logging

A setup has a level and a renderer. It gives the level to the root of all loggers, and the renderer
to its one handler. The logger of HTTP requests, and so those below it, have the level of warnings
instead. A level is named in any letter case; a name that means nothing stands for `info`. -/

namespace SearchClient.Logging

open Failure (Problem BadArgument)

/-- What is written, and how. -/
structure Setup where
  level : Level
  renderer : Renderer
deriving DecidableEq

/-- The logger of HTTP requests. -/
def requestLogger : String :=
  "httpx"

/-- The level of the logger of HTTP requests. -/
def requestLevel : Level :=
  Level.warning

namespace Level

/-- The levels by name, in capitals. -/
def named : List (String × Level) :=
  [("CRITICAL", critical), ("FATAL", critical), ("ERROR", error), ("WARNING", warning),
   ("WARN", warning), ("INFO", info), ("DEBUG", debug), ("NOTSET", 0)]

/-- The names in capitals that mean something else than a level: a text, or something that cannot
    be one. -/
def misnamed : List (String × Problem) :=
  [("BASIC_FORMAT", .argument (.level "%(levelname)s:%(name)s:%(message)s")),
   ("_STYLES", .misuse .wrongType)]

/-- The level of a name. -/
def ofName (name : String) : Except Problem Level :=
  let name := Text.upper name
  match named.lookup name, misnamed.lookup name with
  | some level, _ => .ok level
  | none, some p => .error p
  | none, none => .ok info

end Level

/-- The renderer of a name; JSON unless it is that of text for people. -/
def Renderer.ofName (name : String) : Renderer :=
  if name = "console" then .console else .json

namespace Loggers

/-- Sets loggers up by texts. The handler is replaced first: if the level cannot be set, this is all
    that happens. -/
def setUp (l : Loggers) (level format : String) : Loggers × Except Problem Unit :=
  let l := { l with handlers := [Renderer.ofName format] }
  match Level.ofName level with
  | .error p => (l, .error p)
  | .ok level =>
    let known := l.known.insert requestLogger
    ({ l with root := level, own := l.own.put requestLogger requestLevel, known }, .ok ())

end Loggers

namespace Setup

/-- The setup of settings by their texts. -/
def of (level format : String) : Except Problem Setup := do
  return ⟨← Level.ofName level, Renderer.ofName format⟩

/-- The setup where no settings are given. -/
def default : Setup :=
  ⟨Level.info, .json⟩

/-- The loggers of a process that has this setup and asked for some loggers. -/
def loggers (s : Setup) (known : List String) : Loggers :=
  { root := s.level
    own := [(requestLogger, requestLevel)]
    known := known.insert requestLogger
    handlers := [s.renderer] }

/-- The events that are written for entries. -/
def log (s : Setup) (entries : List Entry) : List Event :=
  ((s.loggers (entries.map (·.logger))).log entries).map (·.2)

/-- The events that are written. -/
def written (s : Setup) (events : List Event) : List Event :=
  s.log (events.map Event.entry)

end Setup

/-- The name of the level of an event in what is written. -/
def Event.levelText (e : Event) : String :=
  e.level.name.toLower

/-- The line that is written for an event. -/
def Event.line (e : Event) : Renderer → String
  | .console => "[" ++ e.levelText ++ "] " ++ e.message ++ " [" ++ e.logger ++ "]"
  | .json =>
    let members : Entries Value :=
      [("event", .text e.message), ("logger", .text e.logger), ("level", .text e.levelText)]
    (Json.write? .body (.map members)).getD ""

/-- How many lines events take for people to read. -/
def lineCount (events : List Event) : Nat :=
  (events.flatMap fun e => Text.lines (e.line .console).toList).length

end SearchClient.Logging
