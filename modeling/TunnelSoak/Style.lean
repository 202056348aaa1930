/-! Colours of a terminal. -/
namespace TunnelSoak

inductive Style where
  | bold
  | dimmed
  | italic
  | red
  | green
  | yellow
  | blue
  | purple
  | cyan
  deriving DecidableEq, Repr

namespace Style

def code : Style → String
  | bold => "1"
  | dimmed => "2"
  | italic => "3"
  | red => "31"
  | green => "32"
  | yellow => "33"
  | blue => "34"
  | purple => "35"
  | cyan => "36"

def paint (style : Style) (coloured : Bool) (text : String) : String :=
  if coloured then "\x1b[" ++ style.code ++ "m" ++ text ++ "\x1b[0m" else text

def padRight (width : Nat) (text : String) : String :=
  text ++ String.ofList (List.replicate (width - text.length) ' ')

def padLeft (width : Nat) (text : String) : String :=
  String.ofList (List.replicate (width - text.length) ' ') ++ text

end Style

end TunnelSoak
