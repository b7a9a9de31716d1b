import CurrencyLedger.Json.Basic
import CurrencyLedger.Log.Level

/-! # Log events

An event is written for people as one text and for programs as a JSON value, here both without the
time. -/

namespace CurrencyLedger

/-- Something worth a log line. -/
structure LogEvent where
  /-- How important it is. -/
  level : LogLevel
  /-- Which part of a program it comes from. -/
  target : String
  /-- What happened. -/
  message : String
  /-- Names and texts that belong to it. -/
  fields : List (String × String)

namespace LogEvent

/-- Whether an event has a field; its message is one. -/
def hasField (e : LogEvent) (name : String) : Bool :=
  name == "message" || e.fields.any (·.1 == name)

/-- An event for programs, without its time. -/
def toJson (e : LogEvent) : Json :=
  .obj [("level", .str e.level.text),
    ("fields", .obj (("message", .str e.message) :: e.fields.map fun f => (f.1, .str f.2))),
    ("target", .str e.target)]

/-- An event for people, without its time. -/
def line (e : LogEvent) : String :=
  e.level.text ++ " " ++ e.target ++ ": " ++ e.message ++
    String.join (e.fields.map fun f => " " ++ f.1 ++ "=" ++ f.2)

end LogEvent

end CurrencyLedger
