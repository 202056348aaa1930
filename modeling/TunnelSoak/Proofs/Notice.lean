import TunnelSoak.Notice
import TunnelSoak.Proofs.Json.Record

/-! A notice survives being written and read. Its type, its data and its timestamp are texts
and values that come back as they were, and a missing timestamp is no field. What is read is
lawful, whatever form the input has, so it can be written and read again. -/
namespace TunnelSoak.Notice

open Json

/-- Notices that are written exactly: the data is ordered, has no number of binary64, and
nests at most 125 arrays and objects. -/
structure Exact (n : Notice) : Prop where
  ordered : n.data.Ordered
  within : ∀ m ∈ n.data, m.2.Lawful Number.IsWhole 125

def draft (n : Notice) : Draft := ⟨some n.type, some n.data, n.timestamp.map some⟩

theorem finish_draft (n : Notice) : n.draft.finish = some n := by
  obtain ⟨type, data, timestamp⟩ := n
  cases timestamp <;> rfl

theorem document_of_reads {α : Type} {decoder : Decoder α} {text : Bytes} {a : α}
    (read : decoder depthLimit (text ++ []) = .ok (a, [])) : document decoder text = .ok a := by
  rw [List.append_nil] at read
  rw [document, read]
  rfl

/-- The members of a notice's text, the timestamp only if there is one. -/
def texts (n : Notice) : List (String × Bytes) :=
  ("noticeType", Quoted.encode n.type) :: ("data", Members.encode n.data) ::
    (n.timestamp.map fun t => ("timestamp", Quoted.encode t)).toList

theorem Exact.fills {n : Notice} (ex : n.Exact) : Fills fields 126 {} n.texts n.draft := by
  obtain ⟨type, data, timestamp⟩ := n
  have stored (rest : Bytes) : freeObject 126 (Members.encode data ++ rest) = .ok (data, rest) :=
    freeObject_encode ex.ordered ex.within
  refine .of rfl rfl (fun _ _ => string_encode type) (.of rfl rfl (fun rest _ => stored rest) ?_)
  cases timestamp with
  | none => exact .nil _
  | some t => exact .of rfl rfl (fun _ _ => optional_string_encode t) (.nil _)

theorem decode_encode {n : Notice} (ex : n.Exact) : decode n.encode = .ok n :=
  document_of_reads (ex.fills.record n.finish_draft)

def Draft.Lawful (draft : Draft) : Prop :=
  ∀ data, draft.data = some data →
    data.Ordered ∧ ∀ m ∈ data, m.2.Lawful Number.IsReadable 125

theorem Draft.Lawful.read {draft next : Draft} {input rest : Bytes} {field : Json.Field Draft}
    (lawful : draft.Lawful) (mem : field ∈ fields)
    (read : field.read 126 draft input = .ok (next, rest)) : next.Lawful := by
  simp only [fields, List.mem_cons, List.not_mem_nil, or_false] at mem
  rcases mem with rfl | rfl | rfl
  · obtain ⟨⟨type, after⟩, -, stored⟩ := map_eq_ok.mp read
    cases stored
    exact lawful
  · obtain ⟨⟨data, after⟩, given, stored⟩ := map_eq_ok.mp read
    cases stored
    intro other same
    cases same
    exact lawful_of_freeObject given
  · obtain ⟨⟨timestamp, after⟩, -, stored⟩ := map_eq_ok.mp read
    cases stored
    exact lawful

theorem lawful_of_decode {raw : Bytes} {n : Notice} (read : decode raw = .ok n) :
    n.data.Ordered ∧ ∀ m ∈ n.data, m.2.Lawful Number.IsReadable 125 := by
  obtain ⟨⟨m, rest⟩, read, ended⟩ := bind_eq_ok.mp read
  have begins : ({} : Draft).Lawful := fun data given => nomatch given
  obtain ⟨draft, lawful, finished⟩ :=
    keeps_of_record (fun field mem _ _ _ _ kept => kept.read mem) begins read
  dsimp only at ended
  split at ended
  · cases ended
    obtain ⟨type, -, rfl⟩ := Option.map_eq_some_iff.mp finished
    cases given : draft.data with
    | none => exact ⟨List.Pairwise.nil, nofun⟩
    | some data => exact lawful data given
  · cases ended

/-- Notices come back from their bytes, and mean the same whatever their timestamp; whatever
has been read without a number of binary64 comes back too. -/
theorem encoding_round_trips :
    (∀ n : Notice, n.Exact → decode n.encode = .ok n ∧
      ∀ timestamp, classify { n with timestamp }.encode = n.meaning) ∧
    ∀ raw m, decode raw = .ok m → (∀ member ∈ m.data, member.2.FloatFree) →
      m.Exact ∧ decode m.encode = .ok m ∧ (decode m.encode).map encode = .ok m.encode := by
  refine ⟨?_, ?_⟩
  · intro n ex
    refine ⟨decode_encode ex, fun timestamp => ?_⟩
    have other : Exact { n with timestamp } := ⟨ex.ordered, ex.within⟩
    rw [classify, decode_encode other]
    rfl
  · intro raw m read free
    obtain ⟨ordered, within⟩ := lawful_of_decode read
    have ex : m.Exact := ⟨ordered, fun member mem => (within member mem).whole (free member mem)⟩
    have again := decode_encode ex
    refine ⟨ex, again, ?_⟩
    rw [again]
    rfl

/-- A control character, a letter of two bytes, the least number and nested data. -/
def intricate : Notice where
  type := "Tunnels\t"
  data := [("count", .number (.int (-(Nat.pow 2 63 : Int)))),
    ("é", .array [.object [("", .null)], .bool true])]
  timestamp := some "\"soon\""

theorem odd_notice_round_trips : decode intricate.encode = .ok intricate ∧
    ∃ m, decode intricate.encode = .ok m ∧ decode m.encode = .ok m := by
  have ex : intricate.Exact := by
    refine ⟨List.pairwise_pair.mpr (by decide), List.forall_mem_cons.mpr ⟨?_, ?_⟩⟩
    · exact .number ⟨by decide, by decide⟩
    · refine List.forall_mem_singleton.mpr (.array (List.forall_mem_cons.mpr ⟨?_, ?_⟩))
      · exact .object (List.pairwise_singleton _ _) (List.forall_mem_singleton.mpr .null)
      · exact List.forall_mem_singleton.mpr (.bool true)
  have free : ∀ member ∈ intricate.data, member.2.FloatFree :=
    fun member mem => (ex.within member mem).floatFree
  obtain ⟨written, read⟩ := encoding_round_trips
  have accepted := (written intricate ex).1
  exact ⟨accepted, intricate, accepted, (read _ _ accepted free).2.1⟩

end TunnelSoak.Notice
