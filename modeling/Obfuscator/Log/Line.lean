/-
Records as lines of the log.

A record is written either as a text, where the particulars follow the
message, or as a JSON object. Both tell the time to the microsecond.
-/
import Obfuscator.Json.Printer
import Obfuscator.Log.Record
import Obfuscator.Log.Settings
import Obfuscator.Text.Column
import Obfuscator.Text.Quoted
import Obfuscator.Time.Elapsed

namespace Obfuscator.Log

/-- When the moments were from which lengths of time are counted. -/
structure Marks where
  run : Instant
  pass : Instant
  deriving DecidableEq, Repr

/-- When a moment was. -/
def Marks.instant (m : Marks) : Mark → Instant
  | .run => m.run
  | .pass => m.pass

/-- An instant to the microsecond. -/
def stamp (t : Instant) : String :=
  let text := Instant.render ⟨t.seconds, 0⟩
  String.ofList text.toList.dropLast ++ "."
    ++ padDecimal 6 (t.nanos / 1000 % 1000000) ++ "Z"

namespace Value

/-- A particular in a line of text. -/
def text (marks : Marks) (now : Instant) : Value → String
  | plain s => s
  | quoted s => Text.quoted s
  | number n => toString n
  | elapsed since => ((marks.instant since).elapsedUntil now).render

/-- A particular in a JSON object. -/
def toJson (marks : Marks) (now : Instant) : Value → Json
  | plain s => .string s
  | quoted s => .string s
  | number n => .ofNat n
  | elapsed since => .string (((marks.instant since).elapsedUntil now).render)

end Value

namespace Record

/-- A record as a line of text. -/
def textLine (r : Record) (showTarget : Bool) (marks : Marks) (now : Instant) :
    String :=
  stamp now ++ " " ++ Text.padLeft 5 r.level.name ++ " " ++
    (if showTarget then r.target ++ ": " else "") ++ r.message ++
    String.join (r.fields.map fun (name, v) =>
      " " ++ name ++ "=" ++ v.text marks now)

/-- A record as a JSON object on one line. -/
def jsonLine (r : Record) (showTarget : Bool) (marks : Marks) (now : Instant) :
    String :=
  let fields := r.fields.map fun (name, v) => (name, v.toJson marks now)
  let target := if showTarget then [("target", Json.string r.target)] else []
  Json.compact (.object
    ([("timestamp", .string (stamp now)), ("level", .string r.level.name),
      ("fields", .object (("message", .string r.message) :: fields))]
        ++ target))

/-- A record as a line of the log. -/
def line (r : Record) (s : Settings) (marks : Marks) (now : Instant) :
    String :=
  if s.json then r.jsonLine s.showTarget marks now
  else r.textLine s.showTarget marks now

end Record

end Obfuscator.Log
