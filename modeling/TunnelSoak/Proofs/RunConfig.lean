import TunnelSoak.RunConfig
import TunnelSoak.Proofs.Json.Supply

/-! The settings of a run are read field by field. A document may give any of them, in any order
and with anything else between them; the ones it does not give are the defaults, and one that it
gives twice is refused. -/
namespace TunnelSoak

open Json Grammar

namespace Controller.Params

/-- Parameters that are written exactly. They stand two objects deep, and open a third. -/
structure Exact (p : Params) : Prop where
  ordered : p.config.Ordered ∧ p.parameters.Ordered
  config : ∀ m ∈ p.config, m.2.Lawful Number.IsWhole 124
  parameters : ∀ m ∈ p.parameters, m.2.Lawful Number.IsWhole 124

variable {p : Params} (ex : p.Exact)
include ex

theorem Exact.read (rest : Bytes) : decoder 126 (p.encode ++ rest) = .ok (p, rest) := by
  have config (rest : Bytes) : freeObject 125 (p.config.encode ++ rest) = .ok (p.config, rest) :=
    freeObject_encode ex.ordered.1 ex.config
  have parameters (rest : Bytes) :
      freeObject 125 (p.parameters.encode ++ rest) = .ok (p.parameters, rest) :=
    freeObject_encode ex.ordered.2 ex.parameters
  have fills : Fills fields 125 {} [("config", p.config.encode),
      ("parameters", p.parameters.encode)] ⟨some p.config, some p.parameters⟩ :=
    .of rfl rfl (fun rest _ => config rest) (.of rfl rfl (fun rest _ => parameters rest) (.nil _))
  exact fills.record rfl

theorem Exact.text : Text p.encode := by
  refine (objectOf_spelled ?_).text
  simp only [List.forall_mem_cons]
  exact ⟨text_members ex.config, text_members ex.parameters, nofun⟩

end Controller.Params

namespace RunConfig

inductive Setting where
  | mode
  | durationSecs
  | sampleIntervalSecs
  | settleDelayMs
  | maxSysMemory
  | controller
  deriving DecidableEq, Repr

namespace Setting

def all : List Setting :=
  [mode, durationSecs, sampleIntervalSecs, settleDelayMs, maxSysMemory, controller]

def name : Setting → String
  | mode => "mode"
  | durationSecs => "duration_secs"
  | sampleIntervalSecs => "sample_interval_secs"
  | settleDelayMs => "settle_delay_ms"
  | maxSysMemory => "max_sys_memory"
  | controller => "controller"

def text (c : RunConfig) : Setting → Bytes
  | mode => Quoted.encode c.mode.name
  | durationSecs => ascii (toString c.durationSecs)
  | sampleIntervalSecs => ascii (toString c.sampleIntervalSecs)
  | settleDelayMs => ascii (toString c.settleDelayMs)
  | maxSysMemory => ascii (toString c.maxSysMemory)
  | controller => c.controller.encode

end Setting

/-- Runs whose settings are written exactly: counts of 64 bits, and controller parameters. -/
structure Exact (c : RunConfig) : Prop where
  durationSecs : c.durationSecs < Nat.pow 2 64
  sampleIntervalSecs : c.sampleIntervalSecs < Nat.pow 2 64
  settleDelayMs : c.settleDelayMs < Nat.pow 2 64
  maxSysMemory : c.maxSysMemory < Nat.pow 2 64
  controller : c.controller.Exact

def keep (c : RunConfig) (given : List Setting) : RunConfig :=
  let default : RunConfig := {}
  { mode := if .mode ∈ given then c.mode else default.mode
    durationSecs := if .durationSecs ∈ given then c.durationSecs else default.durationSecs
    sampleIntervalSecs :=
      if .sampleIntervalSecs ∈ given then c.sampleIntervalSecs else default.sampleIntervalSecs
    settleDelayMs := if .settleDelayMs ∈ given then c.settleDelayMs else default.settleDelayMs
    maxSysMemory := if .maxSysMemory ∈ given then c.maxSysMemory else default.maxSysMemory
    controller := if .controller ∈ given then c.controller else default.controller }

/-- The draft after these settings of the run have been read. -/
def draft (c : RunConfig) (given : List Setting) : Draft where
  mode := if .mode ∈ given then some c.mode else none
  durationSecs := if .durationSecs ∈ given then some c.durationSecs else none
  sampleIntervalSecs := if .sampleIntervalSecs ∈ given then some c.sampleIntervalSecs else none
  settleDelayMs := if .settleDelayMs ∈ given then some c.settleDelayMs else none
  maxSysMemory := if .maxSysMemory ∈ given then some c.maxSysMemory else none
  controller := if .controller ∈ given then some c.controller else none

theorem getD_ite {α : Type} {p : Prop} [Decidable p] (a default : α) :
    (if p then some a else none).getD default = if p then a else default := by
  split <;> rfl

theorem config_draft (c : RunConfig) (given : List Setting) :
    (c.draft given).config = c.keep given := by
  simp only [Draft.config, draft, keep, getD_ite]

theorem keep_all (c : RunConfig) : c.keep Setting.all = c := rfl

section field
variable {c : RunConfig} {s : Setting}

/-- The field of a setting: it is given once the setting has been seen, and it adds the setting
to the draft. -/
structure Holds (c : RunConfig) (s : Setting) (field : Json.Field Draft) : Prop where
  found : fields.find? (fun field => field.name = s.name) = some field
  given : ∀ seen, field.given (c.draft seen) = decide (s ∈ seen)
  read : ∀ {seen pad rest}, Blank pad → Numeral.endsAt rest = true →
    field.read 126 (c.draft seen) (pad ++ (s.text c ++ rest)) = .ok (c.draft (seen ++ [s]), rest)

theorem Holds.of {α : Type} {name : String} {decoder : Decoder α} {get : Draft → Option α}
    {set : Draft → α → Draft} {v : α}
    (found : fields.find? (fun field => field.name = s.name) = some (.of name decoder get set))
    (stored : ∀ seen, get (c.draft seen) = if s ∈ seen then some v else none)
    (adds : ∀ seen, set (c.draft seen) v = c.draft (seen ++ [s]))
    (reads : ∀ {pad rest}, Blank pad → Numeral.endsAt rest = true →
      decoder 126 (pad ++ (s.text c ++ rest)) = .ok (v, rest)) :
    Holds c s (.of name decoder get set) where
  found := found
  given seen := by
    by_cases mem : s ∈ seen <;> simp [Field.of, stored, mem]
  read {seen _ _} blank ends := by
    simp only [Field.of, reads blank ends, Except.map, adds seen]

theorem ofName?_name (mode : Mode) : Mode.ofName? mode.name = some mode := by
  cases mode <;> rfl

theorem count_text {n : Nat} (small : n < Nat.pow 2 64) {pad rest : Bytes} (blank : Blank pad)
    (ends : Numeral.endsAt rest = true) :
    count 126 (pad ++ (ascii (toString n) ++ rest)) = .ok (n, rest) := by
  rw [count_blanks blank, Numeral.ascii_toString, count_written small ends]

theorem exists_holds (ex : c.Exact) (s : Setting) : ∃ field, Holds c s field := by
  cases s with
  | mode =>
    refine ⟨_, .of rfl (fun _ => rfl) (fun seen => by simp [draft]) fun blank _ => ?_⟩
    exact (choice_blanks blank _).trans (choice_encode (ofName?_name c.mode))
  | durationSecs =>
    exact ⟨_, .of rfl (fun _ => rfl) (fun seen => by simp [draft]) (count_text ex.durationSecs)⟩
  | sampleIntervalSecs =>
    exact ⟨_, .of rfl (fun _ => rfl) (fun seen => by simp [draft])
      (count_text ex.sampleIntervalSecs)⟩
  | settleDelayMs =>
    exact ⟨_, .of rfl (fun _ => rfl) (fun seen => by simp [draft]) (count_text ex.settleDelayMs)⟩
  | maxSysMemory =>
    exact ⟨_, .of rfl (fun _ => rfl) (fun seen => by simp [draft]) (count_text ex.maxSysMemory)⟩
  | controller =>
    refine ⟨_, .of rfl (fun _ => rfl) (fun seen => by simp [draft]) fun blank _ => ?_⟩
    exact (record_blanks blank _).trans (ex.controller.read _)

theorem find?_other {name : String} (unknown : ∀ s : Setting, s.name ≠ name) :
    fields.find? (fun field => field.name = name) = none := by
  have names : fields.map Field.name = Setting.all.map Setting.name := rfl
  refine List.find?_eq_none.mpr fun field mem same => ?_
  obtain ⟨s, -, named⟩ := List.mem_map.mp (names ▸ List.mem_map_of_mem mem)
  exact unknown s (named.trans (of_decide_eq_true same))

end field

/-- The members of an object that give these settings of the run, among others of other
names. -/
inductive Spells (c : RunConfig) : List Setting → List (Bytes × Bytes) → Prop
  | nil : Spells c [] []
  | setting {s : Setting} {key : Bytes} {given : List Setting} {members : List (Bytes × Bytes)}
    (named : Means key s.name) (later : Spells c given members) :
    Spells c (s :: given) ((key, s.text c) :: members)
  | other {key text : Bytes} {name : String} {given : List Setting}
    {members : List (Bytes × Bytes)} (named : Means key name)
    (unknown : ∀ s : Setting, s.name ≠ name) (later : Spells c given members) :
    Spells c given ((key, text) :: members)

section step
variable {c : RunConfig} {s : Setting} {seen : List Setting} {first : Bool} {key text body : Bytes}
  {members : List (Bytes × Bytes)}

theorem namedFields_setting (ex : c.Exact) (named : Means key s.name) (fresh : s ∉ seen)
    (listed : Grammar.Members first ((key, s.text c) :: members) body) :
    ∃ later, Grammar.Members false members later ∧ later.length < body.length ∧ ∀ fuel rest,
      namedFields fields 126 (fuel + 1) first (c.draft seen) (body ++ rest) =
        namedFields fields 126 fuel false (c.draft (seen ++ [s])) (later ++ rest) := by
  obtain ⟨pad, later, blank, -, listed, shorter, step⟩ := namedFields_cons listed named
  obtain ⟨field, holds⟩ := exists_holds ex s
  refine ⟨later, listed, shorter, fun fuel rest => ?_⟩
  rw [step, holds.found]
  dsimp only
  rw [holds.given, decide_eq_false fresh, if_neg Bool.false_ne_true,
    holds.read blank listed.endsAt]
  rfl

theorem namedFields_again (ex : c.Exact) (named : Means key s.name) (again : s ∈ seen)
    (listed : Grammar.Members first ((key, text) :: members) body) (fuel : Nat) (rest : Bytes) :
    namedFields fields 126 (fuel + 1) first (c.draft seen) (body ++ rest) = .error .mismatch := by
  obtain ⟨pad, later, -, -, -, -, step⟩ := namedFields_cons listed named
  obtain ⟨field, holds⟩ := exists_holds ex s
  rw [step, holds.found]
  dsimp only
  rw [holds.given, decide_eq_true again, if_pos rfl]

theorem namedFields_other {name : String} (named : Means key name)
    (unknown : ∀ s : Setting, s.name ≠ name)
    (listed : Grammar.Members first ((key, text) :: members) body) :
    ∃ later, Grammar.Members false members later ∧ later.length < body.length ∧
      ∀ fuel draft rest, namedFields fields 126 (fuel + 1) first draft (body ++ rest) =
        namedFields fields 126 fuel false draft (later ++ rest) := by
  obtain ⟨pad, later, blank, valid, listed, shorter, step⟩ := namedFields_cons listed named
  refine ⟨later, listed, shorter, fun fuel draft rest => ?_⟩
  rw [step, find?_other unknown]
  dsimp only
  rw [skip_value valid blank listed.endsAt]
  rfl

end step

section run
variable {c : RunConfig} {seen given : List Setting} {members after : List (Bytes × Bytes)}
  {fuel : Nat} {first : Bool} {body rest : Bytes} (ex : c.Exact) (spells : c.Spells given members)
include ex spells

theorem namedFields_spells (distinct : (seen ++ given).Nodup)
    (listed : Grammar.Members first members body) (enough : body.length < fuel) :
    namedFields fields 126 fuel first (c.draft seen) (body ++ rest) =
      .ok (c.draft (seen ++ given), rest) := by
  -- Along the members the settings that have been seen grow by each that is given.
  induction spells generalizing seen first fuel body with
  | nil =>
    cases listed with
    | close blank =>
      obtain ⟨fuel, rfl⟩ : ∃ n, fuel = n + 1 := ⟨fuel - 1, by omega⟩
      rw [List.append_assoc, List.singleton_append, namedFields_ended blank, List.append_nil]
  | @setting s _ given _ named _ ih =>
    obtain ⟨fuel, rfl⟩ : ∃ n, fuel = n + 1 := ⟨fuel - 1, by omega⟩
    have fresh : s ∉ seen := fun mem =>
      (List.nodup_append.mp distinct).2.2 s mem s List.mem_cons_self rfl
    obtain ⟨later, listed, shorter, step⟩ := namedFields_setting ex named fresh listed
    rw [List.append_cons seen s given] at distinct ⊢
    rw [step]
    exact ih distinct listed (by omega)
  | other named unknown _ ih =>
    obtain ⟨fuel, rfl⟩ : ∃ n, fuel = n + 1 := ⟨fuel - 1, by omega⟩
    obtain ⟨later, listed, shorter, step⟩ := namedFields_other named unknown listed
    rw [step]
    exact ih distinct listed (by omega)

theorem namedFields_repeated {s : Setting} {key text : Bytes} (named : Means key s.name)
    (again : s ∈ seen ++ given)
    (listed : Grammar.Members first (members ++ (key, text) :: after) body)
    (enough : body.length < fuel) :
    namedFields fields 126 fuel first (c.draft seen) (body ++ rest) = .error .mismatch := by
  induction spells generalizing seen first fuel body with
  | nil =>
    obtain ⟨fuel, rfl⟩ : ∃ n, fuel = n + 1 := ⟨fuel - 1, by omega⟩
    rw [List.append_nil] at again
    exact namedFields_again ex named again listed fuel rest
  | @setting t _ given _ named' _ ih =>
    obtain ⟨fuel, rfl⟩ : ∃ n, fuel = n + 1 := ⟨fuel - 1, by omega⟩
    -- A setting may come again before the one that is known to.
    by_cases earlier : t ∈ seen
    · exact namedFields_again ex named' earlier listed fuel rest
    obtain ⟨later, listed, shorter, step⟩ := namedFields_setting ex named' earlier listed
    rw [List.append_cons seen t given] at again
    rw [step]
    exact ih again listed (by omega)
  | other named' unknown _ ih =>
    obtain ⟨fuel, rfl⟩ : ∃ n, fuel = n + 1 := ⟨fuel - 1, by omega⟩
    obtain ⟨later, listed, shorter, step⟩ := namedFields_other named' unknown listed
    rw [step]
    exact ih again listed (by omega)

end run

section decode
variable {c : RunConfig} {given : List Setting} {members : List (Bytes × Bytes)} {raw : Bytes}
  (ex : c.Exact) (spells : c.Spells given members)
include ex spells

theorem decode_spells (distinct : given.Nodup) (object : Document (ObjectOf members) raw) :
    decode raw = .ok (c.keep given) := by
  have filled {fuel : Nat} {body after : Bytes} (listed : Grammar.Members true members body)
      (enough : body.length < fuel) : namedFields fields 126 fuel true {} (body ++ after) =
        (Except.ok (c.draft given)).map (·, after) := by
    have from_start : ([] ++ given).Nodup := distinct
    exact namedFields_spells ex spells from_start listed enough
  rw [← config_draft]
  exact document_record object filled

theorem decode_repeated {s : Setting} {key text : Bytes} {after : List (Bytes × Bytes)}
    (named : Means key s.name) (again : s ∈ given)
    (object : Document (ObjectOf (members ++ (key, text) :: after)) raw) :
    decode raw = .error .mismatch := by
  have refused {fuel : Nat} {body rest : Bytes}
      (listed : Grammar.Members true (members ++ (key, text) :: after) body)
      (enough : body.length < fuel) : namedFields fields 126 fuel true {} (body ++ rest) =
        (Except.error .mismatch : Except Fault Draft).map (·, rest) := by
    have from_start : s ∈ [] ++ given := again
    exact namedFields_repeated ex spells named from_start listed enough
  exact document_record object refused

end decode

section written
variable {c : RunConfig}

/-- The members that give these settings of the run and nothing else. -/
def texts (c : RunConfig) (given : List Setting) : List (String × Bytes) :=
  given.map fun s => (s.name, s.text c)

theorem encode_eq (c : RunConfig) : c.encode = objectOf (c.texts Setting.all) := rfl

theorem Setting.text_valid (ex : c.Exact) (s : Setting) : Text (s.text c) := by
  have count (n : Nat) : Text (ascii (toString n)) := Numeral.ascii_toString n ▸ text_written n
  cases s with
  | mode => exact .quote (means_encode _).quote
  | durationSecs => exact count _
  | sampleIntervalSecs => exact count _
  | settleDelayMs => exact count _
  | maxSysMemory => exact count _
  | controller => exact ex.controller.text

theorem spells_texts (given : List Setting) : c.Spells given (spelled (c.texts given)) := by
  induction given with
  | nil => exact .nil
  | cons s given ih => exact .setting (means_encode s.name) ih

theorem decode_texts (ex : c.Exact) {given : List Setting} (distinct : given.Nodup) :
    decode (objectOf (c.texts given)) = .ok (c.keep given) := by
  refine decode_spells ex (spells_texts given) distinct (.alone (objectOf_spelled ?_))
  intro member mem
  obtain ⟨s, -, rfl⟩ := List.mem_map.mp mem
  exact s.text_valid ex

end written

/-- A document that gives some settings of a run, each once and in any order, with well-formed
members of other names between them, is read as the run with these settings and otherwise the
defaults; what is written without blanks is such a document, and with all settings it is the run
itself. A document that gives a setting again is refused. -/
theorem documents_decode_by_field {c : RunConfig} (ex : c.Exact) :
    (∀ given members raw, c.Spells given members → given.Nodup →
      Document (ObjectOf members) raw → decode raw = .ok (c.keep given)) ∧
    (∀ given members s key text after raw, c.Spells given members → s ∈ given →
      Means key (Setting.name s) → Document (ObjectOf (members ++ (key, text) :: after)) raw →
      decode raw = .error .mismatch) ∧
    (∀ given : List Setting, given.Nodup →
      decode (objectOf (given.map fun s => (s.name, s.text c))) = .ok (c.keep given)) ∧
    decode c.encode = .ok c := by
  refine ⟨fun given members raw spells distinct => decode_spells ex spells distinct,
    fun given members s key text after raw spells again named =>
      decode_repeated ex spells named again,
    fun given distinct => decode_texts ex distinct, ?_⟩
  have distinct : Setting.all.Nodup := by decide
  rw [encode_eq, decode_texts ex distinct, keep_all]

/-- A run that restarts for as long as can be counted, with nested parameters. -/
def endless : RunConfig where
  mode := .restartController
  durationSecs := 18446744073709551615
  controller := ⟨[("Limits", .array [.object [("Rate", .number (.int (-1)))]])], []⟩

theorem endless_exact : endless.Exact where
  durationSecs := by decide
  sampleIntervalSecs := by decide
  settleDelayMs := by decide
  maxSysMemory := by decide
  controller := by
    have rate : (Value.number (.int (-1))).Lawful Number.IsWhole 122 :=
      .number ⟨by decide, by decide⟩
    have limits : (Value.array [.object [("Rate", .number (.int (-1)))]]).Lawful Number.IsWhole
        124 :=
      .array (List.forall_mem_singleton.mpr
        (.object (List.pairwise_singleton _ _) (List.forall_mem_singleton.mpr rate)))
    exact ⟨⟨List.pairwise_singleton _ _, .nil⟩, List.forall_mem_singleton.mpr limits, nofun⟩

/-- Two of its settings in another order, and between them what is no setting. -/
def endlessTexts : List (String × Bytes) :=
  [("duration_secs", Setting.durationSecs.text endless), ("note", ascii "[]"),
    ("mode", Setting.mode.text endless)]

theorem endless_documents_decode : endless.Exact ∧
    decode (objectOf endlessTexts) =
      .ok { mode := .restartController, durationSecs := 18446744073709551615 } ∧
    decode (objectOf (endlessTexts ++ [("duration_secs", ascii "null")])) = .error .mismatch ∧
    decode (objectOf [("controller", endless.controller.encode)]) =
      .ok { controller := endless.controller } ∧
    decode endless.encode = .ok endless := by
  obtain ⟨by_field, refused, written, whole⟩ := documents_decode_by_field endless_exact
  have spells : endless.Spells [.durationSecs, .mode] (spelled endlessTexts) :=
    .setting (means_encode "duration_secs")
      (.other (means_encode "note") (fun s => by cases s <;> decide)
        (.setting (means_encode "mode") .nil))
  have valid : ∀ m ∈ endlessTexts ++ [("duration_secs", ascii "null")], Text m.2 := by
    simp only [endlessTexts, List.cons_append, List.nil_append, List.forall_mem_cons]
    exact ⟨Setting.text_valid endless_exact _, .array (.close blank_nil),
      Setting.text_valid endless_exact _, .null, nofun⟩
  have object : ObjectOf (spelled endlessTexts) (objectOf endlessTexts) :=
    objectOf_spelled fun m mem => valid m (List.mem_append_left _ mem)
  have again := objectOf_spelled valid
  rw [spelled, List.map_append] at again
  refine ⟨endless_exact, ?_, ?_, ?_, whole⟩
  · exact (by_field _ _ _ spells (by decide) (.alone object)).trans (by simp only [keep]; rfl)
  · exact refused _ _ _ _ _ [] _ spells List.mem_cons_self (means_encode "duration_secs")
      (.alone again)
  · exact (written [.controller] (by decide)).trans (by simp only [keep]; rfl)

end RunConfig

end TunnelSoak
