import TunnelSoak.Proofs.Notice
import TunnelSoak.Proofs.Json.Shape
import TunnelSoak.Proofs.Dispatcher.Echo

/-! What a document must look like to be a notice. It is an object with a member that gives the
type as a text, or an array that gives the type first, as records of this kind may be read from
either. Every other document is malformed, and the dispatcher stays as it was. -/
namespace TunnelSoak

namespace Notice

open Json Grammar

structure Stores (name : String) (draft : Draft) (text : Bytes) (next : Draft) : Prop where
  type : name = "noticeType" →
    ∃ type, Means text type ∧ next = { draft with type := some type }
  data : name = "data" →
    ∃ members data, ObjectOf members text ∧ next = { draft with data := some data }
  timestamp : name = "timestamp" →
    ∃ timestamp, NullOrQuote text ∧ next = { draft with timestamp := some timestamp }
  other : name ≠ "noticeType" → next.type = draft.type

theorem stores {field : Json.Field Draft} (mem : field ∈ fields) {draft next : Draft}
    {input rest : Bytes} (read : field.read 126 draft input = .ok (next, rest)) :
    Padded (fun text => Text text ∧ Stores field.name draft text next) input rest := by
  simp only [fields, List.mem_cons, List.not_mem_nil, or_false] at mem
  rcases mem with rfl | rfl | rfl
  · obtain ⟨⟨type, after⟩, given, stored⟩ := map_eq_ok.mp read
    cases stored
    exact (padded_string given).imp fun _ means => ⟨.quote means.quote,
      { type := fun _ => ⟨type, means, rfl⟩
        data := fun same => absurd same (by decide)
        timestamp := fun same => absurd same (by decide)
        other := fun other => absurd rfl other }⟩
  · obtain ⟨⟨data, after⟩, given, stored⟩ := map_eq_ok.mp read
    cases stored
    obtain ⟨members, padded⟩ := padded_freeObject given
    exact padded.imp fun _ object => ⟨object.text,
      { type := fun same => absurd same (by decide)
        data := fun _ => ⟨members, data, object, rfl⟩
        timestamp := fun same => absurd same (by decide)
        other := fun _ => rfl }⟩
  · obtain ⟨⟨timestamp, after⟩, given, stored⟩ := map_eq_ok.mp read
    cases stored
    exact (padded_optional given).imp fun _ optional => ⟨optional.text,
      { type := fun same => absurd same (by decide)
        data := fun same => absurd same (by decide)
        timestamp := fun _ => ⟨timestamp, optional, rfl⟩
        other := fun _ => rfl }⟩

def IsObject (type : String) (text : Bytes) : Prop :=
  ∃ members, ObjectOf members text ∧
    ∃ member ∈ members, Means member.1 "noticeType" ∧ Means member.2 type

/-- The items of an array that gives the type, and after it data and a timestamp or less. -/
inductive Row (type : String) : List Bytes → Prop
  | type {first : Bytes} (means : Means first type) : Row type [first]
  | data {first second : Bytes} {members : List (Bytes × Bytes)} (means : Means first type)
    (object : ObjectOf members second) : Row type [first, second]
  | timestamp {first second third : Bytes} {members : List (Bytes × Bytes)}
    (means : Means first type) (object : ObjectOf members second)
    (optional : NullOrQuote third) : Row type [first, second, third]

/-- An array in place of an object. -/
def IsArray (type : String) (text : Bytes) : Prop := ∃ items, ArrayOf items text ∧ Row type items

theorem type_of_filled {draft last : Draft} {members : List (Bytes × Bytes)} {type : String}
    (filled : Filled Stores draft members last) (given : last.type = some type) :
    draft.type = some type ∨
      ∃ member ∈ members, Means member.1 "noticeType" ∧ Means member.2 type := by
  induction filled with
  | nil => exact .inl given
  | @known draft next last key text name members named stored later ih =>
    rcases ih given with before | ⟨member, mem, means⟩
    · by_cases same : name = "noticeType"
      · obtain ⟨other, means, rfl⟩ := stored.type same
        cases before
        exact .inr ⟨_, List.mem_cons_self, same ▸ named, means⟩
      · exact .inl (stored.other same ▸ before)
    · exact .inr ⟨member, List.mem_cons_of_mem _ mem, means⟩
  | other later ih =>
    rcases ih given with before | ⟨member, mem, means⟩
    · exact .inl before
    · exact .inr ⟨member, List.mem_cons_of_mem _ mem, means⟩

theorem row_of_placed {last : Draft} {items : List Bytes} {type : String}
    (placed : Placed Stores ["noticeType", "data", "timestamp"] {} items last)
    (given : last.type = some type) : Row type items := by
  cases placed with
  | nil => cases given
  | item first later =>
    obtain ⟨_, means, rfl⟩ := first.type rfl
    cases later with
    | nil =>
      cases given
      exact .type means
    | item second later =>
      obtain ⟨members, data, object, rfl⟩ := second.data rfl
      cases later with
      | nil =>
        cases given
        exact .data means object
      | item third later =>
        obtain ⟨_, optional, rfl⟩ := third.timestamp rfl
        cases later
        cases given
        exact .timestamp means object optional

def Shaped (type : String) (raw : Bytes) : Prop :=
  Document (fun text => IsObject type text ∨ IsArray type text) raw

theorem shaped_of_decode {raw : Bytes} {n : Notice} (read : decode raw = .ok n) :
    Shaped n.type raw := by
  obtain ⟨⟨m, rest⟩, decoded, ended⟩ := bind_eq_ok.mp read
  obtain ⟨after, blank, split⟩ := taken_blanks rest
  have ends : skipBlanks rest = [] ∧ m = n := by
    dsimp only at ended
    split at ended
    · cases ended
      exact ⟨‹_›, rfl⟩
    · cases ended
  obtain ⟨ends, rfl⟩ := ends
  rw [ends, List.append_nil] at split
  obtain ⟨last, finished, before, blank', body, ⟨text, shape, rfl⟩, rfl⟩ :=
    padded_record (fun _ mem _ _ _ _ given => stores mem given) decoded
  obtain ⟨type, given, rfl⟩ := Option.map_eq_some_iff.mp finished
  refine ⟨before, text, rest, blank', ?_, split ▸ blank, rfl⟩
  rcases shape with ⟨members, object, filled⟩ | ⟨items, array, placed⟩
  · rcases type_of_filled filled given with none | member
    · cases none
    · exact .inl ⟨members, object, member⟩
  · exact .inr ⟨items, array, row_of_placed placed given⟩

theorem first_of_padded {before rest : Bytes} {b : UInt8} (blank : Blank before)
    (visible : isBlank b = false) : skipBlanks (before ++ b :: rest) = b :: rest := by
  rw [skipBlanks_append blank]
  exact skipBlanks_cons visible

theorem Shaped.kind {type : String} {raw : Bytes} (shaped : Shaped type raw) :
    (skipBlanks raw).head? = some 123 ∧ Document (IsObject type) raw ∨
      (skipBlanks raw).head? = some 91 := by
  obtain ⟨before, text, after, blank, shape, blank', rfl⟩ := shaped
  rcases shape with ⟨members, ⟨body, listed, rfl⟩, typed⟩ | ⟨_, ⟨body, -, rfl⟩, -⟩
  · refine .inl ⟨?_, before, _, after, blank, ⟨members, ⟨body, listed, rfl⟩, typed⟩, blank', rfl⟩
    rw [List.cons_append, first_of_padded blank (by decide)]
    rfl
  · rw [List.cons_append, first_of_padded blank (by decide)]
    exact .inr rfl

/-- The parts of a notice in an array, without their names. -/
def row (n : Notice) : Bytes := 91 :: commaSeparated (n.texts.map Prod.snd) ++ [93]

theorem Exact.fillsInOrder {n : Notice} (ex : n.Exact) :
    FillsInOrder 126 fields {} (n.texts.map Prod.snd) n.draft := by
  obtain ⟨type, data, timestamp⟩ := n
  have quoted (text : String) :
      ∃ b tail, Quoted.encode text = b :: tail ∧ isBlank b = false ∧ b ≠ 93 :=
    ⟨34, _, Quoted.encode_eq text, by decide, by decide⟩
  have braced : ∃ b tail, Members.encode data = b :: tail ∧ isBlank b = false ∧ b ≠ 93 :=
    ⟨123, _, objectOf_eq _, by decide, by decide⟩
  have stored (rest : Bytes) : freeObject 126 (Members.encode data ++ rest) = .ok (data, rest) :=
    freeObject_encode ex.ordered ex.within
  refine .of (quoted type) (fun _ _ => string_encode type)
    (.of braced (fun rest _ => stored rest) ?_)
  cases timestamp with
  | none => exact .nil _ _
  | some t => exact .of (quoted t) (fun _ _ => optional_string_encode t) (.nil _ _)

theorem decode_row {n : Notice} (ex : n.Exact) : decode n.row = .ok n := by
  have text : n.row ++ [] = 91 :: (listed true (n.texts.map Prod.snd) ++ 93 :: []) := by
    rw [row, commaSeparated_eq_listed, List.append_nil]
    rfl
  refine document_of_reads ?_
  rw [text]
  exact ex.fillsInOrder.record n.finish_draft

end Notice

namespace Dispatcher

theorem Desk.dispatch_meaningless (coin : Nat → Bool) (desk : Desk) {raw : List UInt8}
    (meaningless : Notice.classify raw = none) :
    (desk.dispatch coin raw).dispatcher = desk.dispatcher ∧
      (desk.dispatch coin raw).answer desk.tickets = some .ignored := by
  have noise : Notice.establishes raw = false := by rw [Notice.establishes, meaningless]
  have reaction : Notice.reaction raw = .ignored := by rw [Notice.reaction, meaningless]
  have delivered : desk.dispatch coin raw =
      ({ desk with tickets := desk.tickets + 1 }.record (Event.ofArrival raw)).finish
        desk.tickets .ignored := by
    unfold dispatch
    dsimp only
    rw [desk.deliver_noise coin noise, reaction]
    exact if_pos rfl
  rw [delivered]
  refine ⟨rfl, ?_⟩
  rw [answer_finish, if_pos rfl]

/-- Only documents of the shape of a notice mean anything, and those that are no arrays are
objects with a type; but the array of its parts is read as a notice too. Every other document is
ignored and leaves the dispatcher as it was. -/
theorem only_shaped_documents_count (raw : List UInt8) :
    (∀ n, Notice.decode raw = .ok n → Notice.Shaped n.type raw) ∧
    (Notice.classify raw ≠ none → (Json.skipBlanks raw).head? ≠ some 91 →
      ∃ type, Json.Grammar.Document (Notice.IsObject type) raw) ∧
    (∀ n : Notice, n.Exact → raw = n.row → Notice.decode raw = .ok n) ∧
    ((∀ type, ¬ Notice.Shaped type raw) →
      Notice.classify raw = none ∧ (∀ d : Dispatcher, d.arrive raw = (.finished .ignored, d)) ∧
      ∀ coin (desk : Desk), (desk.dispatch coin raw).dispatcher = desk.dispatcher ∧
        (desk.dispatch coin raw).answer desk.tickets = some .ignored) := by
  have shaped : Notice.classify raw ≠ none → ∃ type, Notice.Shaped type raw := by
    intro means
    unfold Notice.classify at means
    split at means
    · exact ⟨_, Notice.shaped_of_decode ‹_›⟩
    · exact absurd rfl means
  refine ⟨fun _ => Notice.shaped_of_decode, fun means unlisted => ?_,
    fun _ ex same => same ▸ Notice.decode_row ex, fun other => ?_⟩
  · obtain ⟨type, shape⟩ := shaped means
    rcases shape.kind with ⟨-, object⟩ | bracket
    · exact ⟨type, object⟩
    · exact absurd bracket unlisted
  · have meaningless : Notice.classify raw = none := by
      by_contra means
      obtain ⟨type, shape⟩ := shaped means
      exact other type shape
    refine ⟨meaningless, fun d => ?_, fun coin desk => desk.dispatch_meaningless coin meaningless⟩
    unfold arrive
    rw [meaningless]

theorem documents_are_told_apart :
    (∃ type, Json.Grammar.Document (Notice.IsObject type) (Notice.tunnels 1 none).encode) ∧
    Notice.decode (Notice.tunnels 1 none).row = .ok (Notice.tunnels 1 none) ∧
    Notice.classify (Json.ascii "\"Tunnels\"") = none := by
  have ex : (Notice.tunnels 1 none).Exact :=
    ⟨List.pairwise_singleton _ _, List.forall_mem_singleton.mpr (.number ⟨by decide, by decide⟩)⟩
  have object : Notice.classify (Notice.tunnels 1 none).encode = some (.tunnels 1) := by
    decide +kernel
  have quote : (Json.skipBlanks (Json.ascii "\"Tunnels\"")).head? = some 34 := by decide
  obtain ⟨-, objects, -, -⟩ := only_shaped_documents_count (Notice.tunnels 1 none).encode
  obtain ⟨-, -, rows, -⟩ := only_shaped_documents_count (Notice.tunnels 1 none).row
  obtain ⟨-, -, -, others⟩ := only_shaped_documents_count (Json.ascii "\"Tunnels\"")
  refine ⟨objects (by rw [object]; nofun) (by decide +kernel), rows _ ex rfl,
    (others fun type shape => ?_).1⟩
  rcases shape.kind with ⟨brace, -⟩ | bracket
  · exact absurd (quote.symm.trans brace) (by decide)
  · exact absurd (quote.symm.trans bracket) (by decide)

/-- A notice without its field names, which is no object. -/
def bare : List UInt8 := Json.ascii "[\"Tunnels\",\x7b\"count\":1\x7d]"

theorem bare_notice_is_counted :
    Notice.classify bare = some (.tunnels 1) ∧
    (∀ d : Dispatcher, (d.arrive bare).2.tracker = d.tracker.increment) ∧
    ∀ members, ¬ Json.Grammar.Document (Json.Grammar.ObjectOf members) bare := by
  have classified : Notice.classify bare = some (.tunnels 1) := by decide +kernel
  refine ⟨classified, fun d => ?_, fun members => ?_⟩
  · rw [d.arrive_of_establishes (by rw [Notice.establishes, classified]; rfl)]
  · rintro ⟨before, text, after, blank, ⟨body, -, rfl⟩, -, split⟩
    have first : (Json.skipBlanks bare).head? = some 91 := by decide
    rw [split, List.cons_append, Notice.first_of_padded blank (by decide)] at first
    exact absurd (Option.some.inj first) (by decide)

end Dispatcher

end TunnelSoak
