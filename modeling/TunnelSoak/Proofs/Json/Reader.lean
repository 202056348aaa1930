import TunnelSoak.Json.Reader
import TunnelSoak.Proofs.Json.Value

/-! What is read is well formed. Numbers come out in range, the members of an object are put
in order however they stand in the input, and the depth that a reader is given bounds the
arrays and objects it opens. -/
namespace TunnelSoak.Json

structure ReadsLawful (fuel : Nat) : Prop where
  value : ∀ {depth input v rest}, valueAt fuel depth input = .ok (v, rest) →
    v.Lawful Number.IsReadable depth
  items : ∀ {depth first input vs rest}, items fuel depth first input = .ok (vs, rest) →
    ∀ v ∈ vs, v.Lawful Number.IsReadable depth
  members : ∀ {depth first input ms rest}, members fuel depth first input = .ok (ms, rest) →
    ∀ m ∈ ms, m.2.Lawful Number.IsReadable depth

section step
variable {fuel depth : Nat} {first : Bool} {input rest : Bytes} (before : ReadsLawful fuel)
include before

theorem lawful_of_valueAt {v : Value} (read : valueAt (fuel + 1) depth input = .ok (v, rest)) :
    v.Lawful Number.IsReadable depth := by
  cases input with
  | nil => cases read
  | cons b tail =>
    unfold valueAt at read
    -- One case for each first byte that a value can have.
    split at read
    · obtain ⟨rest, -, made⟩ := map_eq_ok.mp read
      cases made
      exact .null
    split at read
    · obtain ⟨rest, -, made⟩ := map_eq_ok.mp read
      cases made
      exact .bool true
    split at read
    · obtain ⟨rest, -, made⟩ := map_eq_ok.mp read
      cases made
      exact .bool false
    split at read
    · obtain ⟨⟨n, rest⟩, number, made⟩ := map_eq_ok.mp read
      cases made
      exact .number (isReadable_of_readNumber number)
    split at read
    · obtain ⟨⟨n, rest⟩, number, made⟩ := map_eq_ok.mp read
      cases made
      exact .number (isReadable_of_readNumber number)
    split at read
    · obtain ⟨⟨text, rest⟩, -, made⟩ := map_eq_ok.mp read
      cases made
      exact .string text
    split at read
    · cases depth with
      | zero => cases read
      | succ depth =>
        obtain ⟨⟨vs, rest⟩, inner, made⟩ := map_eq_ok.mp read
        cases made
        exact .array (before.items inner)
    split at read
    · cases depth with
      | zero => cases read
      | succ depth =>
        obtain ⟨⟨ms, rest⟩, inner, made⟩ := map_eq_ok.mp read
        cases made
        exact .object (Members.ordered_ofList ms) fun m hm =>
          before.members inner m (Members.mem_of_mem_ofList hm)
    · cases read

theorem lawful_of_items {vs : List Value}
    (read : items (fuel + 1) depth first input = .ok (vs, rest)) :
    ∀ v ∈ vs, v.Lawful Number.IsReadable depth := by
  unfold items at read
  obtain ⟨going, -, read⟩ := bind_eq_ok.mp read
  cases going with
  | ended => cases read; simp
  | more =>
    obtain ⟨⟨v, after⟩, head, read⟩ := bind_eq_ok.mp read
    obtain ⟨⟨vs, after⟩, tail, read⟩ := bind_eq_ok.mp read
    cases read
    exact List.forall_mem_cons.mpr ⟨before.value head, before.items tail⟩

theorem lawful_of_members {ms : List (String × Value)}
    (read : members (fuel + 1) depth first input = .ok (ms, rest)) :
    ∀ m ∈ ms, m.2.Lawful Number.IsReadable depth := by
  unfold members at read
  obtain ⟨going, -, read⟩ := bind_eq_ok.mp read
  cases going with
  | ended => cases read; simp
  | more =>
    obtain ⟨⟨name, after⟩, -, read⟩ := bind_eq_ok.mp read
    obtain ⟨after, -, read⟩ := bind_eq_ok.mp read
    obtain ⟨⟨v, after⟩, head, read⟩ := bind_eq_ok.mp read
    obtain ⟨⟨ms, after⟩, tail, read⟩ := bind_eq_ok.mp read
    cases read
    exact List.forall_mem_cons.mpr ⟨before.value head, before.members tail⟩

end step

theorem readsLawful (fuel : Nat) : ReadsLawful fuel := by
  induction fuel with
  | zero => exact ⟨nofun, nofun, nofun⟩
  | succ fuel ih => exact ⟨lawful_of_valueAt ih, lawful_of_items ih, lawful_of_members ih⟩

end TunnelSoak.Json
