import TunnelSoak.Toml.Value

/-! Building a document. A header opens a table below the root, a key sets a value
below the table opened last, and nothing is defined twice: a header may complete
a table that only longer headers have implied, and a dotted key may add to tables
that dotted keys have implied. -/
namespace TunnelSoak.Toml.Members

/-- Change the table at a path, along which tables are implied where there are none;
a repeated table stands for its latest one. -/
def change (f : Members → Option Members) : (path : List String) → Members → Option Members
  | [], members => f members
  | key :: path, members =>
    match members.find? key with
    | none => (change f path []).map fun sub => members.set key (.table .implied sub)
    | some (.table origin sub) =>
      if origin = .inlined then none
      else (change f path sub).map fun sub => members.set key (.table origin sub)
    | some (.tables (.table origin sub :: earlier)) =>
      (change f path sub).map fun sub => members.set key (.tables (.table origin sub :: earlier))
    | _ => none

def openTable (key : String) (members : Members) : Option Members :=
  match members.find? key with
  | none => some (members.set key (.table .header []))
  | some (.table .implied sub) => some (members.set key (.table .header sub))
  | _ => none

def openAnother (key : String) (members : Members) : Option Members :=
  match members.find? key with
  | none => some (members.set key (.tables [.table .header []]))
  | some (.tables items) => some (members.set key (.tables (.table .header [] :: items)))
  | _ => none

def define (key : String) (value : Value) (members : Members) : Option Members :=
  match members.find? key with
  | none => some (members.set key value)
  | some _ => none

/-- Set a key below a path of dotted keys. The table that receives it must have been
implied by dotted keys; the ones above it may also have been implied by headers. -/
def defineBelow (key : String) (value : Value) : (path : List String) → Members → Option Members
  | [], members => members.define key value
  | next :: path, members =>
    match members.find? next with
    | none => (defineBelow key value path []).map fun sub => members.set next (.table .dotted sub)
    | some (.table origin sub) =>
      if origin = .dotted ∨ (origin = .implied ∧ path ≠ []) then
        (defineBelow key value path sub).map fun sub => members.set next (.table origin sub)
      else none
    | some (.tables (.table origin sub :: earlier)) =>
      if path = [] then none
      else
        (defineBelow key value path sub).map fun sub =>
          members.set next (.tables (.table origin sub :: earlier))
    | _ => none

end TunnelSoak.Toml.Members
