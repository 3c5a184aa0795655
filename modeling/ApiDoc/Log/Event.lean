import ApiDoc.Json
import ApiDoc.Log.Filter
import ApiDoc.Text.Quoted

/-!
# Log events

An event has a level, a target, a message and named values.  It is written as one line, either as
text or as a JSON object.
-/

namespace ApiDoc

/-- A value of a log event. -/
inductive LogValue
  /-- Text that is written between quotes. -/
  | quoted (s : String)
  | plain (s : String)
  | number (n : Nat)
  | bool (b : Bool)
deriving DecidableEq, Inhabited

namespace LogValue

def print : LogValue → String
  | .quoted s => Text.quoted s
  | .plain s => s
  | .number n => toString n
  | .bool b => if b then "true" else "false"

def toJson : LogValue → Json
  | .quoted s => .string s
  | .plain s => .string s
  | .number n => .number n
  | .bool b => .bool b

end LogValue

structure LogEvent where
  level : LogLevel
  target : String
  message : String
  values : List (String × LogValue)
deriving DecidableEq, Inhabited

namespace LogEvent

/-- The names of the fields; the message is one of them. -/
def fieldNames (e : LogEvent) : List String := "message" :: e.values.map (·.1)

/-- How a character of a message is written in a text line: controls that a terminal could act on
are escaped. -/
def escapeControl (c : Char) : List Char :=
  if c.toNat = 0x1B then "\\x1b".toList
  else if c.toNat = 0x07 then "\\x07".toList
  else if c.toNat = 0x08 then "\\x08".toList
  else if c.toNat = 0x0C then "\\x0c".toList
  else if c.toNat = 0x7F then "\\x7f".toList
  else if 0x80 ≤ c.toNat ∧ c.toNat ≤ 0x9F then
    ['\\', 'u', '\x7b'] ++ Nat.toDigits 16 c.toNat ++ ['\x7d']
  else [c]

/-- The label of the level, five characters wide. -/
def paddedLevel (e : LogEvent) : String :=
  let label := e.level.label
  String.ofList (List.replicate (5 - label.length) ' ') ++ label

/-- The event as a line of text. -/
def printText (e : LogEvent) (time : String) : String :=
  time ++ " " ++ e.paddedLevel ++ " " ++ e.target ++ ": " ++
    String.ofList (e.message.toList.flatMap escapeControl) ++
    String.join (e.values.map fun v => " " ++ v.1 ++ "=" ++ v.2.print) ++ "\n"

/-- The event as a line with a JSON object. -/
def printJson (e : LogEvent) (time : String) : String :=
  (Json.object [
    ("timestamp", .string time),
    ("level", .string e.level.label),
    ("fields", .object (("message", .string e.message) :: e.values.map fun v => (v.1, v.2.toJson))),
    ("target", .string e.target)]).compact ++ "\n"

end LogEvent

namespace LogFilter

/-- Whether an event is logged. -/
def passes (f : LogFilter) (e : LogEvent) : Bool := f.enables e.level e.target e.fieldNames

end LogFilter

end ApiDoc
