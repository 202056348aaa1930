import TunnelSoak.Json.Value
import TunnelSoak.Toml.Value

/-! Values of a fixed kind. Records are read from a table, whose unknown members are
passed over, or from an array of the fields in order, of which the last ones may
be missing. -/
namespace TunnelSoak.Toml

abbrev Decoder (α : Type) := Value → Option α

def text : Decoder String
  | .string text => some text
  | _ => none

def flag : Decoder Bool
  | .boolean value => some value
  | _ => none

def count : Decoder Nat
  | .integer value => if 0 ≤ value then some value.toNat else none
  | _ => none

def isEmpty : Value → Bool
  | .table _ [] => true
  | .array [] => true
  | .tables [] => true
  | _ => false

/-- One name of a few: the name as a text, or a table of that one key with nothing
in it. -/
def choice (parse : String → Option α) : Decoder α
  | .string name => parse name
  | .table _ [(name, value)] => if isEmpty value then parse name else none
  | _ => none

/-- The key under which a date stands where a table is expected. -/
def datetimeKey : String := "$__toml_private_datetime"

mutual

def Value.toJson : Value → Json.Value
  | .string text => .string text
  | .integer value => .number (.int value)
  | .float (some value) => .number (.float value)
  | .float none => .null
  | .boolean value => .bool value
  | .datetime text => .object [(datetimeKey, .string text)]
  | .array items => .array (itemsToJson items)
  | .table _ members => .object (Json.Members.ofList (membersToJson members))
  | .tables items => .array (itemsToJson items).reverse

def itemsToJson : List Value → List Json.Value
  | [] => []
  | item :: items => item.toJson :: itemsToJson items

def membersToJson : List (String × Value) → List (String × Json.Value)
  | [] => []
  | (key, value) :: members => (key, value.toJson) :: membersToJson members

end

def freeTable : Decoder Json.Members := fun value =>
  match value.toJson with
  | .object members => some members
  | _ => none

structure Field (σ : Type) where
  name : String
  read : Value → σ → Option σ

def Field.of (name : String) (decoder : Decoder α) (set : σ → α → σ) : Field σ where
  name := name
  read value draft := (decoder value).map (set draft)

def readNamed (fields : List (Field σ)) (members : Members) (start : σ) : Option σ :=
  fields.foldlM (fun draft field =>
    match members.find? field.name with
    | none => some draft
    | some value => field.read value draft) start

def readOrdered (fields : List (Field σ)) (items : List Value) (start : σ) : Option σ :=
  (fields.zip items).foldlM (fun draft (field, value) => field.read value draft) start

def record (fields : List (Field σ)) (start : σ) : Decoder σ
  | .table _ members => readNamed fields members start
  | .array items => readOrdered fields items start
  | .tables items => readOrdered fields items.reverse start
  | .datetime _ => some start
  | _ => none

end TunnelSoak.Toml
