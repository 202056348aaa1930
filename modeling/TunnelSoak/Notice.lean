import TunnelSoak.Json.Record
import TunnelSoak.Json.Writer
import TunnelSoak.Moment

/-! Controller notices: one JSON object per emission, with a type, free data and
the time of emission. Only tunnel counts and informational messages mean anything
to a soak run. -/
namespace TunnelSoak

structure Notice where
  type : String
  data : Json.Members
  /-- The time as the controller wrote it; nobody interprets it. -/
  timestamp : Option String

namespace Notice

inductive Meaning where
  | tunnels (count : Int)
  | info (message : String)
  | other (type : String)
  deriving DecidableEq, Repr

def tunnels (count : Int) (timestamp : Option String) : Notice :=
  ⟨"Tunnels", [("count", .number (.int count))], timestamp⟩

def info (message : String) (timestamp : Option String) : Notice :=
  ⟨"Info", [("message", .string message)], timestamp⟩

structure Draft where
  type : Option String := none
  data : Option Json.Members := none
  timestamp : Option (Option String) := none

def fields : List (Json.Field Draft) := [
  .of "noticeType" Json.string (·.type) fun draft v => { draft with type := some v },
  .of "data" Json.freeObject (·.data) fun draft v => { draft with data := some v },
  .of "timestamp" (Json.optional Json.string) (·.timestamp)
    fun draft v => { draft with timestamp := some v }]

def Draft.finish (draft : Draft) : Option Notice :=
  draft.type.map fun type => ⟨type, draft.data.getD [], draft.timestamp.getD none⟩

def decoder : Json.Decoder Notice := Json.record fields {} Draft.finish

def decode (bytes : List UInt8) : Except Json.Fault Notice := Json.document decoder bytes

def encode (n : Notice) : List UInt8 :=
  Json.objectOf ([("noticeType", Json.Quoted.encode n.type), ("data", Json.Members.encode n.data)]
    ++ (n.timestamp.map fun t => ("timestamp", Json.Quoted.encode t)).toList)

def clamp (count : Int) : Int := max (-(Nat.pow 2 63 : Int)) (min count (Nat.pow 2 63 - 1 : Int))

/-- Counts are numbers of either kind; a fraction is cut off. -/
def countOf : Json.Number → Int
  | .int n => clamp n
  | .float x => clamp x.truncate

/-- The meaning of a notice, or none where a known type lacks its payload. -/
def meaning (n : Notice) : Option Meaning :=
  if n.type = "Tunnels" then
    match n.data.find? "count" with
    | some (.number count) => some (.tunnels (countOf count))
    | _ => none
  else if n.type = "Info" then
    match n.data.find? "message" with
    | some (.string message) => some (.info message)
    | _ => none
  else some (.other n.type)

def classify (bytes : List UInt8) : Option Meaning :=
  match decode bytes with
  | .ok n => n.meaning
  | .error _ => none

def peakPhrase : String := "peak concurrent establish tunnels"

def meekPeakPhrase : String := "peak concurrent meek establish tunnels"

def contains (phrase : List Char) : List Char → Bool
  | [] => phrase.isEmpty
  | c :: rest => phrase.isPrefixOf (c :: rest) || contains phrase rest

def isPeakMessage (message : String) : Bool :=
  contains peakPhrase.toList message.toList || contains meekPeakPhrase.toList message.toList

end Notice

end TunnelSoak
