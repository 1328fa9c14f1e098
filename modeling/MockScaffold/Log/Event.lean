import MockScaffold.Number.Basic

namespace MockScaffold

inductive LogLevel where
  | off
  | error
  | warn
  | info
  | debug
  | trace
  deriving DecidableEq, Repr

namespace LogLevel

def name : LogLevel → String
  | off => "off"
  | error => "error"
  | warn => "warn"
  | info => "info"
  | debug => "debug"
  | trace => "trace"

def all : List LogLevel :=
  [off, error, warn, info, debug, trace]

def rank (level : LogLevel) : Nat :=
  all.idxOf level

def ofNumber? (text : List Char) : Option LogLevel :=
  let digits := match text with
    | '+' :: rest => rest
    | _ => text
  if digits.isEmpty || !digits.all Char.isDigit then none else all[Number.ofDigits 10 digits]?

def ofText? (text : List Char) : Option LogLevel :=
  let small := text.map Char.toLower
  (ofNumber? text).or (all.find? (·.name.toList == small))

end LogLevel

structure LogSpan where
  target : String
  name : String
  fields : List (String × String) := []
  deriving DecidableEq, Repr

structure LogEvent where
  target : String
  level : LogLevel
  message : String
  fields : List String := []
  span : Option LogSpan := none
  deriving DecidableEq, Repr

namespace LogEvent

/-- The message is a field of every event. -/
def hasField (event : LogEvent) (name : String) : Bool :=
  name == "message" || event.fields.contains name

def line (event : LogEvent) : String :=
  event.level.name.map Char.toUpper ++ " " ++ event.target ++ ": " ++ event.message

end LogEvent

end MockScaffold
