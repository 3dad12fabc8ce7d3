/-!
# Log levels

A limit on the log lets through the lines that are at least as severe as itself; `off` lets through none. A level is
written in capitals and read in any case.
-/

namespace BridgeLedger

/-- The levels from the silent one to the most talkative. -/
inductive LogLevel where
  | off | error | warn | info | debug | trace
deriving DecidableEq, Repr

namespace LogLevel

def all : List LogLevel := [off, error, warn, info, debug, trace]

def name : LogLevel → String
  | off => "OFF"
  | error => "ERROR"
  | warn => "WARN"
  | info => "INFO"
  | debug => "DEBUG"
  | trace => "TRACE"

def rank : LogLevel → Nat
  | off => 0
  | error => 1
  | warn => 2
  | info => 3
  | debug => 4
  | trace => 5

def ofName? (text : String) : Option LogLevel :=
  all.find? fun level => text.map Char.toUpper == level.name

def keeps (limit level : LogLevel) : Bool := level.rank ≤ limit.rank

end LogLevel

structure LogLine where
  level : LogLevel
  message : String
deriving DecidableEq, Repr

def LogLine.text (line : LogLine) : String := line.level.name ++ " " ++ line.message

end BridgeLedger
