import TunnelSoak.Proofs.Dispatcher
import TunnelSoak.Proofs.Json.Cut
import TunnelSoak.Proofs.Notice

/-! Where a notice ends. It is written on one line, nothing but all of its bytes is read as a
notice, and a part of it is known to be one: it is unfinished, not wrong. So a notice that
was cut off on its way counts for nothing. -/
namespace TunnelSoak

namespace Json

def OneLine (text : Bytes) : Prop := ∀ b ∈ text, 32 ≤ b

theorem OneLine.append {text more : Bytes} (one : OneLine text) (other : OneLine more) :
    OneLine (text ++ more) :=
  fun b mem => (List.mem_append.mp mem).elim (one b) (other b)

theorem OneLine.cons {text : Bytes} {b : UInt8} (visible : 32 ≤ b) (one : OneLine text) :
    OneLine (b :: text) := List.forall_mem_cons.mpr ⟨visible, one⟩

theorem oneLine_of_all {text : Bytes} (all : text.all (32 ≤ ·) = true) : OneLine text :=
  fun b mem => of_decide_eq_true (List.all_eq_true.mp all b mem)

theorem oneLine_escape (b : UInt8) : OneLine (Quoted.escape b) := by
  have digit : ∀ n < 16, 32 ≤ Quoted.hexDigit n := by decide
  unfold Quoted.escape
  iterate 7
    split
    · exact oneLine_of_all (by decide)
  split
  · rename_i low
    have high : b.toNat / 16 < 16 := by
      have := UInt8.lt_iff_toNat_lt.mp low
      simp at this
      omega
    have rest := digit _ (Nat.mod_lt b.toNat (by decide))
    have first := digit _ high
    intro c mem
    simp only [List.mem_cons, List.not_mem_nil, or_false] at mem
    rcases mem with rfl | rfl | rfl | rfl | rfl | rfl <;> first | decide | assumption
  · rename_i visible
    exact List.forall_mem_singleton.mpr (UInt8.not_lt.mp visible)

theorem oneLine_quoted (text : String) : OneLine (Quoted.encode text) := by
  rw [Quoted.encode_eq]
  refine .cons (by decide) (.append (fun b mem => ?_) (List.forall_mem_singleton.mpr (by decide)))
  obtain ⟨c, -, mem⟩ := List.mem_flatMap.mp mem
  exact oneLine_escape c b mem

theorem oneLine_int (n : Int) : OneLine (Number.int n).encode := by
  have digits : OneLine (Numeral.written n.natAbs) := by
    intro b mem
    have digit := Numeral.isDigit_of_mem_written n.natAbs b mem
    simp only [Numeral.isDigit, decide_eq_true_eq] at digit
    exact UInt8.le_trans (by decide) digit.1
  rw [Number.encode, ascii_toString_int]
  split
  · exact .cons (by decide) digits
  · exact digits

theorem oneLine_listed {first : Bool} {texts : List Bytes} (each : ∀ text ∈ texts, OneLine text) :
    OneLine (listed first texts) := by
  induction texts generalizing first with
  | nil => exact nofun
  | cons text texts ih =>
    obtain ⟨here, later⟩ := List.forall_mem_cons.mp each
    have comma : OneLine (lead first) := by
      cases first with
      | true => exact nofun
      | false => exact List.forall_mem_singleton.mpr (by decide)
    exact comma.append (here.append (ih later))

theorem oneLine_objectOf {members : List (String × Bytes)}
    (each : ∀ member ∈ members, OneLine member.2) : OneLine (objectOf members) := by
  rw [objectOf_eq]
  refine .cons (by decide) (.append (oneLine_listed ?_) (List.forall_mem_singleton.mpr (by decide)))
  intro text mem
  obtain ⟨member, listed, rfl⟩ := List.mem_map.mp mem
  exact (oneLine_quoted member.1).append (.cons (by decide) (each member listed))

theorem mem_encodeMembers {members : Members} {member : String × Bytes}
    (mem : member ∈ encodeMembers members) : ∃ m ∈ members, member = (m.1, m.2.encode) := by
  induction members with
  | nil => cases mem
  | cons m members ih =>
    obtain ⟨name, v⟩ := m
    rw [encodeMembers] at mem
    rcases List.mem_cons.mp mem with rfl | mem
    · exact ⟨_, List.mem_cons_self, rfl⟩
    · obtain ⟨m, listed, same⟩ := ih mem
      exact ⟨m, List.mem_cons_of_mem _ listed, same⟩

theorem oneLine_of_lawful {depth : Nat} {v : Value} (lawful : v.Lawful Number.IsWhole depth) :
    OneLine v.encode := by
  induction lawful with
  | null => exact oneLine_of_all (by decide)
  | bool b => cases b <;> exact oneLine_of_all (by decide)
  | @number depth n admitted =>
    cases n with
    | int n => exact oneLine_int n
    | float x => exact absurd admitted nofun
  | string text => exact oneLine_quoted text
  | @array depth vs within ih =>
    rw [Value.encode, commaSeparated_eq_listed, encodeItems_eq_map]
    refine .cons (by decide) (.append (oneLine_listed fun text mem => ?_)
      (List.forall_mem_singleton.mpr (by decide)))
    obtain ⟨v, listed, rfl⟩ := List.mem_map.mp mem
    exact ih v listed
  | @object depth ms ordered within ih =>
    rw [Value.encode]
    refine oneLine_objectOf fun member mem => ?_
    obtain ⟨m, listed, rfl⟩ := mem_encodeMembers mem
    exact ih m listed

theorem exists_of_skipBlanks {input : Bytes} (visible : ∃ b ∈ input, isBlank b = false) :
    ∃ b rest, skipBlanks input = b :: rest := by
  induction input with
  | nil =>
    obtain ⟨b, mem, -⟩ := visible
    cases mem
  | cons c input ih =>
    cases blank : isBlank c with
    | false => exact ⟨c, input, skipBlanks_cons blank⟩
    | true =>
      obtain ⟨b, mem, seen⟩ := visible
      rcases List.mem_cons.mp mem with rfl | mem
      · rw [blank] at seen
        cases seen
      · rw [skipBlanks, List.dropWhile_cons_of_pos blank]
        exact ih ⟨b, mem, seen⟩

end Json

namespace Notice

open Json

theorem mem_texts {n : Notice} {member : String × Bytes} (mem : member ∈ n.texts) :
    member = ("noticeType", Quoted.encode n.type) ∨ member = ("data", Members.encode n.data) ∨
      ∃ t, member = ("timestamp", Quoted.encode t) := by
  unfold texts at mem
  rcases List.mem_cons.mp mem with rfl | mem
  · exact .inl rfl
  rcases List.mem_cons.mp mem with rfl | mem
  · exact .inr (.inl rfl)
  · obtain ⟨t, -, rfl⟩ := Option.map_eq_some_iff.mp (Option.mem_toList.mp mem)
    exact .inr (.inr ⟨t, rfl⟩)

theorem encode_eq (n : Notice) : n.encode = objectOf n.texts := rfl

section exact
variable {n : Notice} (ex : n.Exact)
include ex

theorem oneLine_encode : OneLine n.encode := by
  rw [encode_eq]
  refine oneLine_objectOf fun member mem => ?_
  rcases mem_texts mem with rfl | rfl | ⟨t, rfl⟩
  · exact oneLine_quoted n.type
  · refine oneLine_objectOf fun member mem => ?_
    obtain ⟨m, listed, rfl⟩ := mem_encodeMembers mem
    exact oneLine_of_lawful (ex.within m listed)
  · exact oneLine_quoted t

theorem decode_cut {p : Bytes} (cut : Cut p n.encode) : decode p = .error .eof := by
  have short : ∀ member ∈ n.texts, CutShort fields 126 member := by
    intro member mem
    rcases mem_texts mem with rfl | rfl | ⟨t, rfl⟩
    · exact .of rfl fun p cut => string_cut cut
    · exact .of rfl fun p cut => freeObject_cut ex.within cut
    · exact .of rfl fun p cut => optional_string_cut cut
  have unread : decoder depthLimit p = .error .eof := ex.fills.record_cut short cut
  rw [decode, document, unread]
  rfl

theorem decode_more {extra : Bytes} (more : ∃ b ∈ extra, isBlank b = false) :
    decode (n.encode ++ extra) = .error .malformed := by
  have read : decoder depthLimit (n.encode ++ extra) = .ok (n, extra) :=
    ex.fills.record n.finish_draft
  obtain ⟨b, rest, found⟩ := exists_of_skipBlanks more
  rw [decode, document, read, ok_bind]
  simp only [found]

/-- A notice is on one line and ends where its bytes do: whatever is cut off from it leaves an
unfinished text that counts for nothing, and nothing but blanks may follow it. -/
theorem encoding_is_self_delimiting :
    (∀ b ∈ n.encode, 32 ≤ b) ∧
      (∀ p, p <+: n.encode → p ≠ n.encode →
        decode p = .error .eof ∧ classify p = none ∧ establishes p = false ∧
          ∀ d : Dispatcher, d.arrive p = (.finished .ignored, d)) ∧
      ∀ extra, (∃ b ∈ extra, isBlank b = false) →
        decode (n.encode ++ extra) = .error .malformed := by
  refine ⟨oneLine_encode ex, fun p start proper => ?_, fun extra more => decode_more ex more⟩
  have unread := decode_cut ex (Cut.iff_prefix.mpr ⟨start, proper⟩)
  have unknown : classify p = none := by rw [classify, unread]
  refine ⟨unread, unknown, by rw [establishes, unknown], fun d => ?_⟩
  rw [Dispatcher.arrive, unknown]

end exact

/-- An escape, a letter of two bytes, a number with a sign and keywords in nested data. -/
def brittle : Notice where
  type := "Tunnels"
  data := [("count", .number (.int (-120))), ("é\n", .array [.null, .object [("", .bool false)]])]
  timestamp := some "\"now\""

theorem brittle_is_self_delimiting : (∀ b ∈ brittle.encode, 32 ≤ b) ∧
    (∀ k < brittle.encode.length, decode (brittle.encode.take k) = .error .eof ∧
      establishes (brittle.encode.take k) = false) ∧
    decode (brittle.encode ++ [32, 44]) = .error .malformed := by
  have ex : brittle.Exact := by
    refine ⟨List.pairwise_pair.mpr (by decide), List.forall_mem_cons.mpr ⟨?_, ?_⟩⟩
    · exact .number ⟨by decide, by decide⟩
    · refine List.forall_mem_singleton.mpr (.array (List.forall_mem_cons.mpr ⟨.null, ?_⟩))
      exact List.forall_mem_singleton.mpr
        (.object (List.pairwise_singleton _ _) (List.forall_mem_singleton.mpr (.bool false)))
  obtain ⟨oneLine, cut, more⟩ := encoding_is_self_delimiting ex
  refine ⟨oneLine, fun k short => ?_, more _ ⟨44, by decide, rfl⟩⟩
  have proper : brittle.encode.take k ≠ brittle.encode := by
    intro same
    have length := congrArg List.length same
    rw [List.length_take] at length
    omega
  obtain ⟨unread, -, nothing, -⟩ := cut _ (List.take_prefix k _) proper
  exact ⟨unread, nothing⟩

end Notice

end TunnelSoak
