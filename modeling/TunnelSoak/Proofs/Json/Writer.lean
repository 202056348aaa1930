import TunnelSoak.Json.Reader
import TunnelSoak.Proofs.Json.Value

/-! What is written is read back. The text of a value ends where the value does, so it is
read from any longer input too, as long as no numeral goes on there. The bound on the
reader's steps is twice the length of the text: an item takes one step more than its text
needs, and stands after a bracket or a comma. -/
namespace TunnelSoak.Json

section next
variable {close b : UInt8} {first : Bool} {rest : Bytes}

def lead (first : Bool) : Bytes := if first then [] else [44]

theorem skipBlanks_cons (visible : isBlank b = false) : skipBlanks (b :: rest) = b :: rest := by
  simp [skipBlanks, visible]

theorem isBlank_of_isDigit (digit : Numeral.isDigit b = true) : isBlank b = false := by
  refine Bool.eq_false_iff.mpr fun blank => ?_
  simp only [isBlank, Bool.or_eq_true, beq_iff_eq, or_assoc] at blank
  rcases blank with rfl | rfl | rfl | rfl <;> cases digit

theorem next_lead (visible : isBlank b = false) (other : b ≠ close) (comma : close ≠ 44) :
    next close first (lead first ++ b :: rest) = .ok (.more (b :: rest)) := by
  cases first with
  | true =>
    change next close true (b :: rest) = _
    simp [next, skipBlanks_cons visible, other]
  | false =>
    change next close false (44 :: b :: rest) = _
    simp [next, skipBlanks_cons (show isBlank 44 = false by decide), skipBlanks_cons visible,
      other, comma.symm]

theorem next_close (visible : isBlank close = false) :
    next close first (close :: rest) = .ok (.ended rest) := by
  simp [next, skipBlanks_cons visible]

end next

/-- Texts with commas between them, and one before the first unless it stands alone. -/
def listed : (first : Bool) → List Bytes → Bytes
  | _, [] => []
  | first, text :: texts => lead first ++ (text ++ listed false texts)

theorem commaSeparated_eq_listed (texts : List Bytes) :
    commaSeparated texts = listed true texts := by
  induction texts with
  | nil => rfl
  | cons text texts ih =>
    cases texts with
    | nil => exact (List.append_nil text).symm
    | cons other texts =>
      rw [commaSeparated, ih]
      · rfl
      · nofun

theorem endsAt_listed (texts : List Bytes) {close : UInt8} (rest : Bytes)
    (ends : Numeral.endsAt (close :: rest) = true) :
    Numeral.endsAt (listed false texts ++ close :: rest) = true := by
  cases texts with
  | nil => exact ends
  | cons text texts => rfl

theorem starts_of_valueAt {fuel depth : Nat} {b : UInt8} {rest : Bytes} {reading : Reading Value}
    (read : valueAt fuel depth (b :: rest) = .ok reading) :
    isBlank b = false ∧ b ≠ 93 ∧ b ≠ 125 := by
  cases fuel with
  | zero => simp [valueAt] at read
  | succ fuel =>
    refine ⟨Bool.eq_false_iff.mpr fun blank => ?_, ?_, ?_⟩
    · simp only [isBlank, Bool.or_eq_true, beq_iff_eq, or_assoc] at blank
      rcases blank with rfl | rfl | rfl | rfl <;> simp [valueAt, Numeral.isDigit] at read
    · rintro rfl
      simp [valueAt, Numeral.isDigit] at read
    · rintro rfl
      simp [valueAt, Numeral.isDigit] at read

/-- The value is read from its text, whatever stands after it. -/
def Reads (depth : Nat) (v : Value) : Prop :=
  ∀ fuel rest, 2 * v.encode.length < fuel → Numeral.endsAt rest = true →
    valueAt fuel depth (v.encode ++ rest) = .ok (v, rest)

theorem Reads.of_succ {depth : Nat} {v : Value}
    (step : ∀ fuel rest, 2 * v.encode.length ≤ fuel → Numeral.endsAt rest = true →
      valueAt (fuel + 1) depth (v.encode ++ rest) = .ok (v, rest)) : Reads depth v := by
  intro fuel rest enough ends
  obtain ⟨fuel, rfl⟩ : ∃ n, fuel = n + 1 := ⟨fuel - 1, by omega⟩
  exact step fuel rest (Nat.le_of_lt_succ enough) ends

theorem Reads.starts {depth : Nat} {v : Value} (reads : Reads depth v) :
    ∃ b rest, v.encode = b :: rest ∧ isBlank b = false ∧ b ≠ 93 ∧ b ≠ 125 := by
  have whole := reads _ [] (Nat.lt_succ_self _) rfl
  rw [List.append_nil] at whole
  cases text : v.encode with
  | nil =>
    rw [text] at whole
    simp [valueAt] at whole
  | cons b rest =>
    rw [text] at whole
    exact ⟨b, rest, rfl, starts_of_valueAt whole⟩

theorem Reads.skipBlanks {depth : Nat} {v : Value} (reads : Reads depth v) {rest : Bytes} :
    skipBlanks (v.encode ++ rest) = v.encode ++ rest := by
  obtain ⟨b, tail, text, visible, -⟩ := reads.starts
  rw [text]
  exact skipBlanks_cons visible

section items
variable {depth fuel : Nat} {first : Bool} {rest : Bytes}

theorem items_cons {v : Value} (reads : Reads depth v) (enough : 2 * v.encode.length < fuel)
    (ends : Numeral.endsAt rest = true) :
    items (fuel + 1) depth first (lead first ++ (v.encode ++ rest)) =
      (items fuel depth false rest).map fun (vs, rest) => (v :: vs, rest) := by
  obtain ⟨b, tail, text, visible, bracket, -⟩ := reads.starts
  have read := reads fuel rest enough ends
  rw [text, List.cons_append] at read ⊢
  rw [items, next_lead visible bracket (by decide)]
  simp only [ok_bind, read]
  cases items fuel depth false rest <;> rfl

theorem items_listed {vs : List Value} (reads : ∀ v ∈ vs, Reads depth v)
    (enough : 2 * (listed first (vs.map Value.encode)).length + 1 < fuel) :
    items fuel depth first (listed first (vs.map Value.encode) ++ 93 :: rest) = .ok (vs, rest) := by
  induction vs generalizing first fuel with
  | nil =>
    obtain ⟨fuel, rfl⟩ : ∃ n, fuel = n + 1 := ⟨fuel - 1, by omega⟩
    change items (fuel + 1) depth first (93 :: rest) = _
    rw [items, next_close (by decide)]
    rfl
  | cons v vs ih =>
    have here := reads v List.mem_cons_self
    obtain ⟨b, tail, text, -⟩ := here.starts
    have some_text : 0 < v.encode.length := by simp [text]
    simp only [List.map_cons, listed, List.length_append] at enough
    obtain ⟨fuel, rfl⟩ : ∃ n, fuel = n + 1 := ⟨fuel - 1, by omega⟩
    rw [List.map_cons, listed, List.append_assoc, List.append_assoc,
      items_cons here (by omega) (endsAt_listed _ rest rfl),
      ih (fun v hv => reads v (List.mem_cons_of_mem _ hv)) (by omega)]
    rfl

end items

def memberText (member : String × Bytes) : Bytes := Quoted.encode member.1 ++ 58 :: member.2

section member
variable {close : UInt8} {first : Bool} {member : String × Bytes} {rest : Bytes}

theorem next_member (bracket : 34 ≠ close) (comma : close ≠ 44) :
    next close first (lead first ++ (memberText member ++ rest)) =
      .ok (.more (memberText member ++ rest)) := by
  rw [memberText, Quoted.encode_eq, List.cons_append, List.cons_append]
  exact next_lead (by decide) bracket comma

theorem key_member :
    key (memberText member ++ rest) = .ok (member.1, 58 :: (member.2 ++ rest)) := by
  rw [memberText, Quoted.encode_eq, List.cons_append, List.cons_append, List.append_assoc,
    List.cons_append]
  exact Quoted.decode_afterQuote _ member.1

end member

section members
variable {depth fuel : Nat} {first : Bool} {rest : Bytes}

theorem members_cons {name : String} {text : Bytes} {v : Value}
    (starts : skipBlanks (text ++ rest) = text ++ rest)
    (read : valueAt fuel depth (text ++ rest) = .ok (v, rest)) :
    members (fuel + 1) depth first (lead first ++ (memberText (name, text) ++ rest)) =
      (members fuel depth false rest).map fun (ms, rest) => ((name, v) :: ms, rest) := by
  have after : colon (58 :: (text ++ rest)) = .ok (text ++ rest) := rfl
  rw [members, next_member (by decide) (by decide)]
  simp only [ok_bind, key_member, after, starts, read]
  cases members fuel depth false rest <;> rfl

theorem members_listed {ms : Members} (reads : ∀ m ∈ ms, Reads depth m.2)
    (enough : 2 * (listed first ((encodeMembers ms).map memberText)).length + 1 < fuel) :
    members fuel depth first (listed first ((encodeMembers ms).map memberText) ++ 125 :: rest) =
      .ok (ms, rest) := by
  induction ms generalizing first fuel with
  | nil =>
    obtain ⟨fuel, rfl⟩ : ∃ n, fuel = n + 1 := ⟨fuel - 1, by omega⟩
    change members (fuel + 1) depth first (125 :: rest) = _
    rw [members, next_close (by decide)]
    rfl
  | cons m ms ih =>
    obtain ⟨name, v⟩ := m
    have here : Reads depth v := reads (name, v) List.mem_cons_self
    have text : (memberText (name, v.encode)).length =
        (Quoted.encode name).length + (v.encode.length + 1) := List.length_append
    simp only [encodeMembers, List.map_cons, listed, List.length_append, text] at enough
    obtain ⟨fuel, rfl⟩ : ∃ n, fuel = n + 1 := ⟨fuel - 1, by omega⟩
    rw [encodeMembers, List.map_cons, listed, List.append_assoc, List.append_assoc,
      members_cons here.skipBlanks (here fuel _ (by omega) (endsAt_listed _ rest rfl)),
      ih (fun m hm => reads m (List.mem_cons_of_mem _ hm)) (by omega)]
    rfl

end members

theorem encodeItems_eq_map (vs : List Value) : encodeItems vs = vs.map Value.encode := by
  induction vs with
  | nil => rfl
  | cons v vs ih => rw [encodeItems, ih, List.map_cons]

theorem objectOf_eq (members : List (String × Bytes)) :
    objectOf members = 123 :: (listed true (members.map memberText) ++ [125]) := by
  rw [objectOf, commaSeparated_eq_listed]
  rfl

section valueAt
variable {fuel depth : Nat} {rest : Bytes}

theorem valueAt_minus : valueAt (fuel + 1) depth (45 :: rest) =
    (readNumber true rest).map fun (n, rest) => (.number n, rest) := by
  simp [valueAt]

theorem valueAt_digit {b : UInt8} (digit : Numeral.isDigit b = true) :
    valueAt (fuel + 1) depth (b :: rest) =
      (readNumber false (b :: rest)).map fun (n, rest) => (.number n, rest) := by
  have bounds : 48 ≤ b ∧ b ≤ 57 := by simpa [Numeral.isDigit] using digit
  have other : b ≠ 110 ∧ b ≠ 116 ∧ b ≠ 102 ∧ b ≠ 45 := by
    refine ⟨?_, ?_, ?_, ?_⟩ <;> (rintro rfl; revert bounds; decide)
  simp only [valueAt, other, digit, if_false, if_true]

theorem valueAt_quote : valueAt (fuel + 1) depth (34 :: rest) =
    (Quoted.decode rest).map fun (text, rest) => (.string text, rest) := by
  simp [valueAt, Numeral.isDigit]

theorem valueAt_bracket : valueAt (fuel + 1) (depth + 1) (91 :: rest) =
    (items fuel depth true rest).map fun (vs, rest) => (.array vs, rest) := by
  simp [valueAt, Numeral.isDigit]

theorem valueAt_brace : valueAt (fuel + 1) (depth + 1) (123 :: rest) =
    (members fuel depth true rest).map fun (ms, rest) => (.object (Members.ofList ms), rest) := by
  simp [valueAt, Numeral.isDigit]

theorem valueAt_sign (negative : Bool) {text : Bytes} (whole : Numeral.IsWhole text) :
    valueAt (fuel + 1) depth ((if negative then 45 :: text else text) ++ rest) =
      (readNumber negative (text ++ rest)).map fun (n, rest) => (.number n, rest) := by
  cases negative with
  | true => exact valueAt_minus
  | false =>
    obtain ⟨b, ds, rfl⟩ := List.exists_cons_of_ne_nil whole.some_digits
    exact valueAt_digit (whole.each b List.mem_cons_self)

theorem valueAt_int {n : Int} (whole : (Number.int n).IsWhole)
    (ends : Numeral.endsAt rest = true) :
    valueAt (fuel + 1) depth ((Number.int n).encode ++ rest) = .ok (.number (.int n), rest) := by
  have text : (if n < 0 then 45 :: Numeral.written n.natAbs else Numeral.written n.natAbs) =
      if decide (n < 0) then 45 :: Numeral.written n.natAbs else Numeral.written n.natAbs := by
    simp only [decide_eq_true_eq]
  rw [Number.encode, ascii_toString_int, text, valueAt_sign _ (Numeral.isWhole_written _),
    readNumber_written whole ends]
  rfl

end valueAt

theorem reads_of_lawful {depth : Nat} {v : Value} (lawful : v.Lawful Number.IsWhole depth) :
    Reads depth v := by
  induction lawful with
  | null => exact .of_succ fun fuel rest enough ends => rfl
  | bool b => exact .of_succ fun fuel rest enough ends => by cases b <;> rfl
  | @number depth n admitted =>
    cases n with
    | int n => exact .of_succ fun fuel rest enough ends => valueAt_int admitted ends
    | float x => exact absurd admitted nofun
  | string text =>
    apply Reads.of_succ
    intro fuel rest enough ends
    rw [Value.encode, Quoted.encode_eq, List.cons_append, valueAt_quote, Quoted.decode_afterQuote]
    rfl
  | @array depth vs within ih =>
    apply Reads.of_succ
    intro fuel rest enough ends
    have text : (Value.array vs).encode ++ rest =
        91 :: (listed true (vs.map Value.encode) ++ 93 :: rest) := by
      rw [Value.encode, commaSeparated_eq_listed, encodeItems_eq_map, List.append_assoc]
      rfl
    have length := congrArg List.length text
    simp only [List.length_append, List.length_cons] at length
    rw [text, valueAt_bracket, items_listed ih (by omega)]
    rfl
  | @object depth ms ordered within ih =>
    apply Reads.of_succ
    intro fuel rest enough ends
    have text : (Value.object ms).encode ++ rest =
        123 :: (listed true ((encodeMembers ms).map memberText) ++ 125 :: rest) := by
      rw [Value.encode, objectOf_eq, List.cons_append, List.append_assoc]
      rfl
    have length := congrArg List.length text
    simp only [List.length_append, List.length_cons] at length
    rw [text, valueAt_brace, members_listed ih (by omega)]
    change Except.ok (Value.object (Members.ofList ms), rest) = _
    rw [Members.ofList_of_ordered ordered]

end TunnelSoak.Json
