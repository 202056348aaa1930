import Mathlib.Data.List.Basic
import TunnelSoak.Utf8
import TunnelSoak.Proofs.Json.Quoted

/-! Bytes that are those of a text are read as that text. In any other bytes a character
that breaks off is over at the next ASCII byte, so that what stands behind such a byte is
read by itself. -/
namespace TunnelSoak.Utf8

open Json (Bytes utf8)

section start
variable {n : Nat}

end start

section charsFrom
variable {point n : Nat} {next : Range} {later : List Range} {rest : Bytes}

end charsFrom

section ascii
variable {b : UInt8} (ascii : b < 0x80)
include ascii

end ascii

end TunnelSoak.Utf8
