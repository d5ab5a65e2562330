/-!
# Logs

Messages with a level, and the loggers that take them: one that keeps every
message, one that drops every message, and one that writes the messages from its
level on.
-/

namespace BuildHost

inductive LogLevel where
  | debug
  | info
  | warn
  | error
deriving DecidableEq, Repr

namespace LogLevel

def all : List LogLevel := [debug, info, warn, error]

def rank : LogLevel → Nat
  | debug => 0
  | info => 1
  | warn => 2
  | error => 3

def name : LogLevel → String
  | debug => "debug"
  | info => "info"
  | warn => "warn"
  | error => "error"

/-- Reads a level; ASCII letters count in either case, and a text that names
none is given back in lower case. -/
def parse (text : String) : Except String LogLevel :=
  let lower := String.ofList (text.toList.map Char.toLower)
  match lower with
  | "debug" => .ok .debug
  | "info" => .ok .info
  | "warn" | "warning" => .ok .warn
  | "error" => .ok .error
  | other => .error other

def unknownMessage (text : String) : String :=
  "unknown log level `" ++ text ++ "`"

end LogLevel

structure LogEntry where
  level : LogLevel
  message : String
deriving DecidableEq, Repr

abbrev Log := List LogEntry

namespace Log

def messages (log : Log) (level : LogLevel) : List String :=
  (log.filter (·.level = level)).map (·.message)

end Log

inductive Logger where
  /-- Every message is kept. -/
  | recorder
  /-- Every message is dropped. -/
  | null
  /-- The messages from the level on are written out. -/
  | console (level : LogLevel)
deriving DecidableEq, Repr

namespace Logger

def level : Logger → LogLevel
  | recorder => .debug
  | null => .error
  | console level => level

def isEnabled (logger : Logger) (level : LogLevel) : Bool :=
  logger.level.rank ≤ level.rank

def record (logger : Logger) (entries : List LogEntry) : Log :=
  match logger with
  | recorder => entries
  | _ => []

def line (entry : LogEntry) : String :=
  match entry.level with
  | .debug => "[DEBUG] " ++ entry.message
  | .info => "[INFO] " ++ entry.message
  | .warn => "WARNING: " ++ entry.message
  | .error => "ERROR: " ++ entry.message

/-- The lines that a logger writes out for the messages it is given. -/
def lines (logger : Logger) (entries : List LogEntry) : List String :=
  match logger with
  | console level => (entries.filter (level.rank ≤ ·.level.rank)).map line
  | _ => []

end Logger
end BuildHost
