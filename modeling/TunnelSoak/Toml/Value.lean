import TunnelSoak.Binary64

/-! TOML values. A table remembers how it came about, since that decides what may
still be added to it. -/
namespace TunnelSoak.Toml

inductive Origin where
  /-- Written in braces. -/
  | inlined
  /-- Opened by a header of its own. -/
  | header
  /-- Implied by a longer header. -/
  | implied
  /-- Implied by a dotted key. -/
  | dotted
  deriving DecidableEq, Repr

inductive Value where
  | string (text : String)
  | integer (value : Int)
  /-- None is infinite or not a number. -/
  | float (value : Option Binary64)
  | boolean (value : Bool)
  /-- A date, a time or both, in the canonical form. -/
  | datetime (text : String)
  | array (items : List Value)
  | table (origin : Origin) (members : List (String × Value))
  /-- Tables of one header that was opened over and over, the latest first. -/
  | tables (items : List Value)
  deriving Inhabited

abbrev Members := List (String × Value)

def Members.find? (key : String) : Members → Option Value
  | [] => none
  | (k, v) :: rest => if k = key then some v else find? key rest

def Members.set (key : String) (value : Value) : Members → Members
  | [] => [(key, value)]
  | (k, v) :: rest => if k = key then (key, value) :: rest else (k, v) :: set key value rest

end TunnelSoak.Toml
