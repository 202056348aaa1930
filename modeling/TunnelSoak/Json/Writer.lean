import TunnelSoak.Json.Value
import TunnelSoak.Json.Quoted
import TunnelSoak.Binary64.Shortest

/-! Writing values, compactly and on one line. -/
namespace TunnelSoak.Json

/-- Positional from `0.00001` to `1000000000000000.0`; beyond that an exponent,
with a plus sign where it is positive. -/
def numberLayout : Binary64.Layout := ⟨-5, 15, true⟩

def Number.encode : Number → Bytes
  | .int n => ascii (toString n)
  | .float x => ascii (numberLayout.text x)

def commaSeparated : List Bytes → Bytes
  | [] => []
  | [text] => text
  | text :: texts => text ++ 44 :: commaSeparated texts

def objectOf (members : List (String × Bytes)) : Bytes :=
  123 :: commaSeparated (members.map fun (key, text) => Quoted.encode key ++ 58 :: text) ++ [125]

mutual

def Value.encode : Value → Bytes
  | .null => ascii "null"
  | .bool true => ascii "true"
  | .bool false => ascii "false"
  | .number n => n.encode
  | .string text => Quoted.encode text
  | .array items => 91 :: commaSeparated (encodeItems items) ++ [93]
  | .object members => objectOf (encodeMembers members)

def encodeItems : List Value → List Bytes
  | [] => []
  | v :: vs => v.encode :: encodeItems vs

def encodeMembers : List (String × Value) → List (String × Bytes)
  | [] => []
  | (k, v) :: ms => (k, v.encode) :: encodeMembers ms

end

def Members.encode (members : Members) : Bytes := objectOf (encodeMembers members)

def textOf (bytes : Bytes) : String := (text? bytes).getD ""

end TunnelSoak.Json
