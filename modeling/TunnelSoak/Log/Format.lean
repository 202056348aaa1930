import TunnelSoak.Json.Writer
import TunnelSoak.Log.Filter
import TunnelSoak.Mode
import TunnelSoak.Style

/-! The two written forms of a log line, plain and JSON. Each line names the spans it
is in, from the outermost on, where the filter admits them. -/
namespace TunnelSoak.Log

structure Format where
  json : Bool
  styled : Bool
  filter : Filter

structure Run where
  id : String
  mode : Mode

structure Span where
  name : String
  target : String
  field : String
  value : String
  deriving DecidableEq, Repr

def Run.spans (run : Run) : List Span :=
  [⟨"memsoak", "memsoak::commands::run", "run_id", run.id⟩,
    ⟨"soak_run", runTarget, "mode", run.mode.name⟩]

namespace Format

def levelStyle : Level → Style
  | .error => .red
  | .warn => .yellow
  | .info => .green
  | .debug => .blue
  | .trace => .purple

def fieldText (styled : Bool) (name text : String) : String :=
  Style.italic.paint styled name ++ Style.dimmed.paint styled "=" ++ text

def spanText (styled : Bool) (span : Span) : String :=
  Style.bold.paint styled span.name ++ Style.bold.paint styled "\x7b" ++
    fieldText styled span.field span.value ++ Style.bold.paint styled "\x7d" ++
    Style.dimmed.paint styled ":"

/-- A field after its line's message. One that is itself called message has no name. -/
def appendField (styled : Bool) (text : String) (field : String × Field) : String :=
  let (name, value) := field
  if name = "message" then text ++ " " ++ value.bare
  else text ++ " " ++ fieldText styled name value.shown

def plain (styled : Bool) (stamp : String) (spans : List Span) (line : Line) : String :=
  let level := (levelStyle line.level).paint styled (Style.padLeft 5 line.level.name)
  let scope := String.join (spans.map (spanText styled)) ++ if spans.isEmpty then "" else " "
  Style.dimmed.paint styled stamp ++ " " ++ level ++ " " ++ scope ++
    Style.dimmed.paint styled line.target ++ Style.dimmed.paint styled ":" ++ " " ++
    line.fields.foldl (appendField styled) line.message

def fieldJson : Field → Json.Bytes
  | .count n => Json.ascii (toString n)
  | .text s => Json.Quoted.encode s
  | .quoted s => Json.Quoted.encode s

def spanJson (span : Span) : Json.Bytes :=
  Json.objectOf
    [(span.field, Json.Quoted.encode span.value), ("name", Json.Quoted.encode span.name)]

def jsonText (stamp : String) (spans : List Span) (line : Line) : String :=
  let fields := ("message", Json.Quoted.encode line.message) ::
    line.fields.map fun (name, value) => (name, fieldJson value)
  let scope :=
    match spans.getLast? with
    | some span =>
      [("span", spanJson span),
        ("spans", 91 :: Json.commaSeparated (spans.map spanJson) ++ [93])]
    | none => []
  Json.textOf (Json.objectOf
    ([("timestamp", Json.Quoted.encode stamp), ("level", Json.Quoted.encode line.level.name),
      ("fields", Json.objectOf fields), ("target", Json.Quoted.encode line.target)] ++ scope))

def text? (format : Format) (run : Run) (stamp : String) (line : Line) : Option String :=
  if format.filter.admits line.target line.level then
    let spans := run.spans.filter fun span => format.filter.admits span.target .info
    if format.json then some (jsonText stamp spans line)
    else some (plain format.styled stamp spans line)
  else none

end Format

end TunnelSoak.Log
