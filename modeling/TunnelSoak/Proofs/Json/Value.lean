import TunnelSoak.Proofs.Json.Numeral

/-! Which values there are. The keys of an object ascend, so there is one list for each
object, and a value is bounded in how many arrays and objects it nests. Without numbers of
binary64 in it, a value is exactly what its text says. -/
namespace TunnelSoak.Json

namespace Members

def Ordered (members : Members) : Prop := members.Pairwise fun a b => a.1 < b.1

section insert
variable {key : String} {value : Value} {members : Members}

theorem mem_insert {member : String × Value} (mem : member ∈ insert key value members) :
    member = (key, value) ∨ member ∈ members := by
  induction members with
  | nil => exact .inl (List.mem_singleton.mp mem)
  | cons head rest ih =>
    unfold insert at mem
    split at mem
    · exact List.mem_cons.mp mem
    · split at mem
      · exact (List.mem_cons.mp mem).imp_right (List.mem_cons_of_mem _)
      · rcases List.mem_cons.mp mem with rfl | mem
        · exact .inr List.mem_cons_self
        · exact (ih mem).imp_right (List.mem_cons_of_mem _)

theorem ordered_insert (ordered : members.Ordered) : (insert key value members).Ordered := by
  induction members with
  | nil => exact List.pairwise_singleton _ _
  | cons head rest ih =>
    obtain ⟨first, rest_ordered⟩ := List.pairwise_cons.mp ordered
    unfold Members.insert
    split
    · rename_i before
      refine List.pairwise_cons.mpr ⟨?_, ordered⟩
      intro member mem
      rcases List.mem_cons.mp mem with rfl | mem
      · exact before
      · exact String.lt_trans before (first member mem)
    · rename_i not_before
      split
      · rename_i same
        exact List.pairwise_cons.mpr ⟨same ▸ first, rest_ordered⟩
      · rename_i other
        refine List.pairwise_cons.mpr ⟨?_, ih rest_ordered⟩
        intro member mem
        rcases mem_insert mem with rfl | mem
        · exact Std.lt_of_le_of_ne (String.not_lt.mp not_before) (Ne.symm other)
        · exact first member mem

theorem insert_last (above : ∀ member ∈ members, member.1 < key) :
    insert key value members = members ++ [(key, value)] := by
  induction members with
  | nil => rfl
  | cons head rest ih =>
    have last := above head List.mem_cons_self
    rw [insert, if_neg (String.lt_asymm last), if_neg (Ne.symm (Std.ne_of_lt last)),
      ih fun member mem => above member (List.mem_cons_of_mem _ mem), List.cons_append]

end insert

theorem ordered_foldl {start members : Members} (ordered : start.Ordered) :
    (members.foldl (fun object member => insert member.1 member.2 object) start).Ordered := by
  induction members generalizing start with
  | nil => exact ordered
  | cons member rest ih => exact ih (ordered_insert ordered)

theorem mem_foldl {start members : Members} {member : String × Value}
    (mem : member ∈ members.foldl (fun object member => insert member.1 member.2 object) start) :
    member ∈ start ∨ member ∈ members := by
  induction members generalizing start with
  | nil => exact .inl mem
  | cons head rest ih =>
    rcases ih mem with mem | mem
    · rcases mem_insert mem with rfl | mem
      · exact .inr List.mem_cons_self
      · exact .inl mem
    · exact .inr (List.mem_cons_of_mem _ mem)

theorem ordered_ofList (members : List (String × Value)) : (ofList members).Ordered :=
  ordered_foldl List.Pairwise.nil

theorem mem_of_mem_ofList {members : List (String × Value)} {member : String × Value}
    (mem : member ∈ ofList members) : member ∈ members :=
  (mem_foldl mem).resolve_left List.not_mem_nil

theorem ofList_of_ordered {members : Members} (ordered : members.Ordered) :
    ofList members = members := by
  have grows : ∀ start : Members, (start ++ members).Ordered →
      members.foldl (fun object member => insert member.1 member.2 object) start =
        start ++ members := by
    clear ordered
    induction members with
    | nil => simp
    | cons member rest ih =>
      intro start all
      have above : ∀ m ∈ start, m.1 < member.1 := fun m hm =>
        (List.pairwise_append.mp all).2.2 m hm member List.mem_cons_self
      rw [List.foldl_cons, insert_last above, ih, List.append_assoc, List.singleton_append]
      rwa [List.append_assoc, List.singleton_append]
  exact grows [] ordered

end Members

namespace Value

inductive Part (part : Value) : Value → Prop
  | self : Part part part
  | item {v : Value} {items : List Value} (mem : v ∈ items) (within : Part part v) :
    Part part (.array items)
  | member {m : String × Value} {members : Members} (mem : m ∈ members)
    (within : Part part m.2) : Part part (.object members)

def FloatFree (v : Value) : Prop := ∀ x, ¬ Part (.number (.float x)) v

/-- Every number in the value is admitted, every object in it has ordered keys, and nowhere
are more than `depth` arrays and objects open. -/
inductive Lawful (admits : Number → Prop) : (depth : Nat) → Value → Prop
  | null {depth : Nat} : Lawful admits depth .null
  | bool {depth : Nat} (b : Bool) : Lawful admits depth (.bool b)
  | number {depth : Nat} {n : Number} (admitted : admits n) : Lawful admits depth (.number n)
  | string {depth : Nat} (text : String) : Lawful admits depth (.string text)
  | array {depth : Nat} {items : List Value} (within : ∀ v ∈ items, Lawful admits depth v) :
    Lawful admits (depth + 1) (.array items)
  | object {depth : Nat} {members : Members} (ordered : members.Ordered)
    (within : ∀ m ∈ members, Lawful admits depth m.2) :
    Lawful admits (depth + 1) (.object members)

theorem Lawful.whole {depth : Nat} {v : Value} (lawful : v.Lawful Number.IsReadable depth)
    (free : v.FloatFree) : v.Lawful Number.IsWhole depth := by
  induction lawful with
  | null => exact .null
  | bool b => exact .bool b
  | @number depth n readable =>
    cases n with
    | int n => exact .number readable
    | float x => exact absurd .self (free x)
  | string text => exact .string text
  | array _ ih => exact .array fun v hv => ih v hv fun x part => free x (.item hv part)
  | object ordered _ ih =>
    exact .object ordered fun m hm => ih m hm fun x part => free x (.member hm part)

theorem Lawful.floatFree {depth : Nat} {v : Value} (lawful : v.Lawful Number.IsWhole depth) :
    v.FloatFree := by
  intro x part
  induction lawful with
  | null => cases part
  | bool => cases part
  | number admitted =>
    cases part
    exact admitted
  | string => cases part
  | array _ ih =>
    cases part with
    | item mem within => exact ih _ mem within
  | object _ _ ih =>
    cases part with
    | member mem within => exact ih _ mem within

end Value

end TunnelSoak.Json
