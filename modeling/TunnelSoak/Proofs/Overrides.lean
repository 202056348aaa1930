import TunnelSoak.Controller.Params
import TunnelSoak.Proofs.Notice
import TunnelSoak.Proofs.Utf8

/-! The settings that a soak imposes on its controller. They replace what the user has set
under their keys, whatever that was, and leave all other keys alone; imposed once more for
another directory, they leave nothing of the first one. -/
namespace TunnelSoak

namespace Json.Members
variable {key other : String} {value replaced : Value} {members : Members}

end Json.Members

namespace Path

/-- The names on a path that lead on from where they stand. -/
def steps (path : String) : List String := (names path).filter fun name => !Directory.isStay name

section steps
variable {dir name : String}

end steps

section joinBytes
variable {dir : Json.Bytes} {name : String}

end joinBytes

end Path

namespace Controller.Params

open Json

section setAll
variable {settings object : Members} {key : String} {value : Value}

end setAll

/-- The path `/tmp/?/memsoak-x`, where the name in its midst is the byte 255. -/
def strange : Bytes := utf8 "/tmp/" ++ 255 :: utf8 "/memsoak-x"

end Controller.Params

end TunnelSoak
