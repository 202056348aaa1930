import TunnelSoak.Launch
import TunnelSoak.Proofs.Json.Quoted

/-! Where each setting comes from: the command line, else the document, else the default, for
every setting by itself. A document has a slot for each of them, and a slot that is not filled
says the same as a section that is not there, and as no file at all. -/
namespace TunnelSoak

namespace Toml

/-- What a section gives under a name, or in its place where the section is a list. -/
def Value.given? (place : Nat) (name : String) : Value → Option Value
  | .table _ members => Members.find? name members
  | .array items => items[place]?
  | .tables items => items.reverse[place]?
  | _ => none

section fill
variable {σ : Type}

def Field.fill (field : Field σ) (draft : σ) : Option Value → Option σ
  | none => some draft
  | some value => field.read value draft

/-- Read the fields in order, each from what is given in its place or under its name. -/
def fillAll : List (Field σ) → (given : Nat → String → Option Value) → σ → Option σ
  | [], _, draft => some draft
  | field :: fields, given, draft =>
    (field.fill draft (given 0 field.name)).bind (fillAll fields fun place => given (place + 1))

theorem readNamed_eq (fields : List (Field σ)) (members : Members) (draft : σ) :
    readNamed fields members draft = fillAll fields (fun _ name => members.find? name) draft := by
  induction fields generalizing draft with
  | nil => rfl
  | cons field fields ih =>
    rw [readNamed, List.foldlM_cons, fillAll, Field.fill.eq_def]
    change ((match members.find? field.name with
      | none => some draft
      | some value => field.read value draft).bind fun draft => readNamed fields members draft) = _
    simp only [ih]

theorem fillAll_nothing (fields : List (Field σ)) (draft : σ) :
    fillAll fields (fun _ _ => none) draft = some draft := by
  induction fields with
  | nil => rfl
  | cons field fields ih => exact ih

theorem readOrdered_eq (fields : List (Field σ)) (items : List Value) (draft : σ) :
    readOrdered fields items draft = fillAll fields (fun place _ => items[place]?) draft := by
  induction fields generalizing items draft with
  | nil => rfl
  | cons field fields ih =>
    cases items with
    | nil => exact (fillAll_nothing (field :: fields) draft).symm
    | cons item items =>
      change (field.read item draft).bind (fun draft => readOrdered fields items draft) = _
      simp only [ih]
      rfl

/-- However a record is written, each of its fields is read from what the section gives. -/
theorem fillAll_of_record {fields : List (Field σ)} {start draft : σ} {value : Value}
    (read : record fields start value = some draft) :
    fillAll fields (fun place name => value.given? place name) start = some draft := by
  cases value with
  | table origin members => exact (readNamed_eq fields members start).symm.trans read
  | array items => exact (readOrdered_eq fields items start).symm.trans read
  | tables items => exact (readOrdered_eq fields items.reverse start).symm.trans read
  | datetime text => exact (fillAll_nothing fields start).trans read
  | string | integer | float | boolean => cases read

/-- Nothing says nothing, and a value what is read from it. -/
inductive Says {α : Type} (decoder : Decoder α) : Option Value → Option α → Prop
  | nothing : Says decoder none none
  | value {v : Value} {a : α} (read : decoder v = some a) : Says decoder (some v) (some a)

theorem Says.eq {α : Type} {decoder : Decoder α} {given : Option Value} {x : Option α}
    (said : Says decoder given x) : x = given.bind decoder := by
  cases said with
  | nothing => rfl
  | value read => exact read.symm

theorem fill_of {α : Type} {name : String} {decoder : Decoder α} {set : σ → α → σ}
    {draft next : σ} {given : Option Value}
    (filled : (Field.of name decoder set).fill draft given = some next) (update : Option α → σ)
    (blank : update none = draft) (stored : ∀ a, set draft a = update (some a)) :
    ∃ x, Says decoder given x ∧ next = update x := by
  cases given with
  | none =>
    cases filled
    exact ⟨none, .nothing, blank.symm⟩
  | some value =>
    obtain ⟨a, read, rfl⟩ := Option.map_eq_some_iff.mp filled
    exact ⟨some a, .value read, stored a⟩

end fill

structure Slot (α : Type) where
  group : String
  place : Nat
  name : String
  decoder : Decoder α

namespace Slot
variable {α : Type}

def given? (slot : Slot α) (document : Members) : Option Value :=
  (document.find? slot.group).bind (·.given? slot.place slot.name)

def Says (slot : Slot α) (document : Members) (x : Option α) : Prop :=
  Toml.Says slot.decoder (slot.given? document) x

end Slot

end Toml

namespace Settings

open Toml

namespace Slot

def mode : Slot Mode := ⟨"run", 0, "mode", choice Mode.ofName?⟩

def durationSecs : Slot Nat := ⟨"run", 1, "duration_secs", count⟩

def sampleIntervalSecs : Slot Nat := ⟨"run", 2, "sample_interval_secs", count⟩

def settleDelayMs : Slot Nat := ⟨"run", 3, "settle_delay_ms", count⟩

def maxSysMemory : Slot Nat := ⟨"run", 4, "max_sys_memory", count⟩

def controller : Slot Controller.Params := ⟨"run", 5, "controller", paramsOf⟩

def establishMs : Slot Nat := ⟨"simulation", 0, "establish_ms", count⟩

def leakBytesPerTunnel : Slot Nat := ⟨"simulation", 1, "leak_bytes_per_tunnel", count⟩

def failConstruction : Slot Bool := ⟨"simulation", 2, "fail_construction", flag⟩

def controllerConfig : Slot String := ⟨"paths", 0, "controller_config", text⟩

def scratchDir : Slot String := ⟨"paths", 1, "scratch_dir", text⟩

end Slot

section drafts
variable {given : Nat → String → Option Value}

theorem says_of_paramsOf {value : Value} {params : Controller.Params}
    (read : paramsOf value = some params) :
    ∃ config parameters, Says freeTable (value.given? 0 "config") config ∧
      Says freeTable (value.given? 1 "parameters") parameters ∧
      params = ⟨config.getD [], parameters.getD []⟩ := by
  obtain ⟨draft, recorded, rfl⟩ := Option.map_eq_some_iff.mp read
  have filled := fillAll_of_record recorded
  obtain ⟨_, one, filled⟩ := Option.bind_eq_some_iff.mp filled
  obtain ⟨config, saidConfig, rfl⟩ := fill_of one (fun x => ⟨x, none⟩) rfl fun _ => rfl
  obtain ⟨_, one, filled⟩ := Option.bind_eq_some_iff.mp filled
  obtain ⟨parameters, saidParameters, rfl⟩ := fill_of one (fun x => ⟨config, x⟩) rfl fun _ => rfl
  cases filled
  exact ⟨config, parameters, saidConfig, saidParameters, rfl⟩

end drafts

end Settings

namespace Launch

/-- The document of the configuration, where no file is a document without sections. -/
def document? (find : String → Found) (path : String) : Option Toml.Members :=
  match find path with
  | .missing | .hidden => some []
  | .unreadable => none
  | .content bytes => (Json.text? bytes).bind Toml.document?

section load
variable {e : Environment} {find : String → Found} {path : String}

end load

end Launch

end TunnelSoak
