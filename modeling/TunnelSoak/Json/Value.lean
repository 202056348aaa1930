import TunnelSoak.Binary64

/-! JSON values. Objects are kept as members in ascending order of key with no
key twice, so equal objects are equal lists and printing needs no sorting. -/
namespace TunnelSoak.Json

/-- Whole numbers of 64 bits stay exact; every other number is binary64. -/
inductive Number where
  | int (value : Int)
  | float (value : Binary64)
  deriving DecidableEq, Repr

inductive Value where
  | null
  | bool (value : Bool)
  | number (value : Number)
  | string (text : String)
  | array (items : List Value)
  | object (members : List (String × Value))
  deriving Inhabited

abbrev Members := List (String × Value)

def Members.find? (key : String) : Members → Option Value
  | [] => none
  | (k, v) :: rest => if k = key then some v else find? key rest

def Members.insert (key : String) (value : Value) : Members → Members
  | [] => [(key, value)]
  | (k, v) :: rest =>
    if key < k then (key, value) :: (k, v) :: rest
    else if key = k then (key, value) :: rest
    else (k, v) :: insert key value rest

/-- Of several members with one key the last one counts. -/
def Members.ofList (members : List (String × Value)) : Members :=
  members.foldl (fun object member => Members.insert member.1 member.2 object) []

def Members.keys (members : Members) : List String := members.map Prod.fst

end TunnelSoak.Json
