import TunnelSoak.Json.Record
import TunnelSoak.Proofs.Json.Reader
import TunnelSoak.Proofs.Json.Writer

/-! Records. A record is read back from an object of its fields, field by field in the order
in which they stand there. However a record is read, from an object or from an array, what
every one of its fields keeps is kept. -/
namespace TunnelSoak.Json

section values
variable {depth : Nat} {rest : Bytes}

theorem string_encode (text : String) :
    string depth (Quoted.encode text ++ rest) = .ok (text, rest) := by
  rw [string, Quoted.encode_eq, List.cons_append, skipBlanks_cons (by decide)]
  exact Quoted.decode_afterQuote _ text

theorem optional_string_encode (text : String) :
    optional string depth (Quoted.encode text ++ rest) = .ok (some text, rest) := by
  rw [optional, Quoted.encode_eq, List.cons_append, skipBlanks_cons (by decide)]
  change (string depth (Quoted.encode text ++ rest)).map _ = _
  rw [string_encode]
  rfl

theorem count_written {n : Nat} (small : n < Nat.pow 2 64) (ends : Numeral.endsAt rest = true) :
    count depth (Numeral.written n ++ rest) = .ok (n, rest) := by
  have whole : (Number.int n).IsWhole := by
    have positive : 0 < Nat.pow 2 63 := by decide
    constructor <;> omega
  have read := readNumber_written whole ends
  have digits := Numeral.isDigit_of_mem_written n
  have unsigned : decide ((n : Int) < 0) = false := decide_eq_false (by omega)
  rw [unsigned, Int.natAbs_natCast] at read
  obtain ⟨b, tail, text⟩ := List.exists_cons_of_ne_nil (Numeral.written_ne_nil n)
  rw [text] at read digits ⊢
  have digit := digits b List.mem_cons_self
  rw [List.cons_append] at read ⊢
  rw [count, skipBlanks_cons (isBlank_of_isDigit digit)]
  dsimp only
  rw [if_neg (Numeral.digit_apart digit (by decide)), if_pos digit, read]
  rfl

theorem choice_encode {α : Type} {parse : String → Option α} {name : String} {a : α}
    (known : parse name = some a) :
    choice parse depth (Quoted.encode name ++ rest) = .ok (a, rest) := by
  rw [choice, Quoted.encode_eq, List.cons_append, skipBlanks_cons (by decide)]
  dsimp only
  rw [if_pos rfl, Quoted.decode_afterQuote]
  simp only [ok_bind, known]

theorem freeObject_encode {ms : Members} (ordered : ms.Ordered)
    (within : ∀ m ∈ ms, m.2.Lawful Number.IsWhole depth) :
    freeObject (depth + 1) (Members.encode ms ++ rest) = .ok (ms, rest) := by
  rw [freeObject, Members.encode, objectOf_eq, List.cons_append, List.append_assoc,
    skipBlanks_cons (by decide)]
  change (members _ depth true (listed true _ ++ 125 :: rest)).map _ = _
  have reads : ∀ m ∈ ms, Reads depth m.2 := fun m hm => reads_of_lawful (within m hm)
  rw [members_listed reads (by simp only [List.length_append, List.length_cons]; omega)]
  exact congrArg (fun ms => Except.ok (ms, rest)) (Members.ofList_of_ordered ordered)

theorem freeObject_singleton {name : String} {text : Bytes} {v : Value}
    (starts : ∀ rest, skipBlanks (text ++ rest) = text ++ rest)
    (read : ∀ fuel rest, Numeral.endsAt rest = true →
      valueAt (fuel + 1) depth (text ++ rest) = .ok (v, rest)) :
    freeObject (depth + 1) (objectOf [(name, text)] ++ rest) = .ok ([(name, v)], rest) := by
  have one : listed true ([(name, text)].map memberText) ++ [125] ++ rest =
      lead true ++ (memberText (name, text) ++ (125 :: rest)) := by
    simp [listed, lead]
  rw [freeObject, objectOf_eq, List.cons_append, skipBlanks_cons (by decide), one]
  change (members (2 * _ + 1 + 1) depth true _).map _ = _
  rw [members_cons (starts _) (read _ _ rfl), members, next_close (by decide)]
  rfl

theorem lawful_of_freeObject {ms : Members} {input : Bytes}
    (read : freeObject (depth + 1) input = .ok (ms, rest)) :
    ms.Ordered ∧ ∀ m ∈ ms, m.2.Lawful Number.IsReadable depth := by
  unfold freeObject at read
  split at read
  · obtain ⟨⟨given, after⟩, inner, made⟩ := map_eq_ok.mp read
    cases made
    exact ⟨Members.ordered_ofList given, fun m hm =>
      (readsLawful _).members inner m (Members.mem_of_mem_ofList hm)⟩
  · cases read

end values

section fields
variable {σ : Type} {fields : List (Field σ)} {depth fuel : Nat} {first : Bool} {rest : Bytes}

inductive Fills (fields : List (Field σ)) (depth : Nat) : σ → List (String × Bytes) → σ → Prop
  | nil (draft : σ) : Fills fields depth draft [] draft
  | cons {draft next last : σ} {member : String × Bytes} {members : List (String × Bytes)}
    {field : Field σ} (found : fields.find? (fun field => field.name = member.1) = some field)
    (fresh : field.given draft = false)
    (read : ∀ rest, Numeral.endsAt rest = true →
      field.read depth draft (member.2 ++ rest) = .ok (next, rest))
    (tail : Fills fields depth next members last) :
    Fills fields depth draft (member :: members) last

theorem Fills.of {α : Type} {name : String} {text : Bytes} {a : α} {decoder : Decoder α}
    {get : σ → Option α} {set : σ → α → σ} {draft last : σ} {members : List (String × Bytes)}
    (found : fields.find? (fun field => field.name = name) = some (.of name decoder get set))
    (fresh : get draft = none)
    (read : ∀ rest, Numeral.endsAt rest = true → decoder depth (text ++ rest) = .ok (a, rest))
    (tail : Fills fields depth (set draft a) members last) :
    Fills fields depth draft ((name, text) :: members) last := by
  refine .cons found ?_ ?_ tail
  · simp only [Field.of, fresh, Option.isSome_none]
  · intro rest ends
    simp only [Field.of, read rest ends, Except.map]

theorem Fills.namedFields {draft last : σ} {members : List (String × Bytes)}
    (fills : Fills fields depth draft members last) (enough : members.length < fuel) :
    namedFields fields depth fuel first draft
      (listed first (members.map memberText) ++ 125 :: rest) = .ok (last, rest) := by
  induction fills generalizing first fuel with
  | nil draft =>
    obtain ⟨fuel, rfl⟩ : ∃ n, fuel = n + 1 := ⟨fuel - 1, by omega⟩
    change Json.namedFields fields depth (fuel + 1) first draft (125 :: rest) = _
    rw [Json.namedFields, next_close (by decide)]
    rfl
  | @cons draft next last member members field found fresh read tail ih =>
    rw [List.length_cons] at enough
    obtain ⟨fuel, rfl⟩ : ∃ n, fuel = n + 1 := ⟨fuel - 1, by omega⟩
    have after (rest : Bytes) : colon (58 :: (member.2 ++ rest)) = .ok (member.2 ++ rest) := rfl
    have ends : Numeral.endsAt (listed false (members.map memberText) ++ 125 :: rest) = true :=
      endsAt_listed _ rest rfl
    have read := read _ ends
    rw [List.map_cons, listed, List.append_assoc, List.append_assoc, Json.namedFields,
      next_member (by decide) (by decide)]
    simp only [ok_bind, key_member, found, fresh, after, read, Bool.false_eq_true, if_false]
    exact ih (by omega)

theorem length_le_listed (members : List (String × Bytes)) :
    members.length ≤ (listed first (members.map memberText)).length := by
  induction members generalizing first with
  | nil => exact Nat.zero_le _
  | cons member members ih =>
    have rest : members.length ≤ (listed false (members.map memberText)).length := ih
    have text : 0 < (memberText member).length := by rw [memberText, Quoted.encode_eq]; simp
    simp only [List.map_cons, listed, List.length_append, List.length_cons]
    omega

theorem Fills.record {α : Type} {start last : σ} {finish : σ → Option α} {a : α}
    {members : List (String × Bytes)} (fills : Fills fields depth start members last)
    (finished : finish last = some a) :
    record fields start finish (depth + 1) (objectOf members ++ rest) = .ok (a, rest) := by
  have length : members.length ≤ (listed true (members.map memberText)).length :=
    length_le_listed members
  rw [Json.record, objectOf_eq, List.cons_append, List.append_assoc, skipBlanks_cons (by decide)]
  change (Json.namedFields fields depth _ true start (listed true _ ++ 125 :: rest) >>= _) = _
  rw [fills.namedFields (by simp only [List.length_append, List.length_cons]; omega)]
  simp only [ok_bind, finished]

inductive FillsInOrder (depth : Nat) : List (Field σ) → σ → List Bytes → σ → Prop
  | nil (fields : List (Field σ)) (draft : σ) : FillsInOrder depth fields draft [] draft
  | cons {draft next last : σ} {text : Bytes} {texts : List Bytes} {field : Field σ}
    {fields : List (Field σ)} (starts : ∃ b tail, text = b :: tail ∧ isBlank b = false ∧ b ≠ 93)
    (read : ∀ rest, Numeral.endsAt rest = true →
      field.read depth draft (text ++ rest) = .ok (next, rest))
    (tail : FillsInOrder depth fields next texts last) :
    FillsInOrder depth (field :: fields) draft (text :: texts) last

theorem FillsInOrder.of {α : Type} {name : String} {text : Bytes} {a : α} {decoder : Decoder α}
    {get : σ → Option α} {set : σ → α → σ} {draft last : σ} {texts : List Bytes}
    {fields : List (Field σ)} (starts : ∃ b tail, text = b :: tail ∧ isBlank b = false ∧ b ≠ 93)
    (read : ∀ rest, Numeral.endsAt rest = true → decoder depth (text ++ rest) = .ok (a, rest))
    (tail : FillsInOrder depth fields (set draft a) texts last) :
    FillsInOrder depth (.of name decoder get set :: fields) draft (text :: texts) last := by
  refine .cons starts (fun rest ends => ?_) tail
  simp only [Field.of, read rest ends, Except.map]

theorem FillsInOrder.orderedFields {draft last : σ} {texts : List Bytes}
    (fills : FillsInOrder depth fields draft texts last) :
    orderedFields depth fields first draft (listed first texts ++ 93 :: rest) =
      .ok (last, rest) := by
  induction fills generalizing first with
  | nil fields draft =>
    change Json.orderedFields depth fields first draft (93 :: rest) = _
    cases fields with
    | nil => simp [Json.orderedFields, skipBlanks_cons (show isBlank 93 = false by decide)]
    | cons field fields =>
      rw [Json.orderedFields, next_close (by decide)]
      rfl
  | @cons draft next last text texts field fields starts read tail ih =>
    obtain ⟨b, _, rfl, visible, other⟩ := starts
    have ends : Numeral.endsAt (listed false texts ++ 93 :: rest) = true :=
      endsAt_listed _ rest rfl
    have read := read _ ends
    rw [List.cons_append] at read
    rw [listed, List.append_assoc, List.append_assoc, List.cons_append, Json.orderedFields,
      next_lead visible other (by decide)]
    simp only [ok_bind, read]
    exact ih

theorem FillsInOrder.record {α : Type} {start last : σ} {finish : σ → Option α} {a : α}
    {texts : List Bytes} (fills : FillsInOrder depth fields start texts last)
    (finished : finish last = some a) :
    record fields start finish (depth + 1) (91 :: (listed true texts ++ 93 :: rest)) =
      .ok (a, rest) := by
  rw [Json.record, skipBlanks_cons (by decide)]
  change (Json.orderedFields depth fields true start (listed true texts ++ 93 :: rest) >>= _) = _
  rw [fills.orderedFields]
  simp only [ok_bind, finished]

section keeps
variable {P : σ → Prop} (keeps : ∀ field ∈ fields, ∀ {draft input next rest}, P draft →
  field.read depth draft input = .ok (next, rest) → P next)
include keeps

theorem keeps_of_namedFields {draft last : σ} {input : Bytes} (kept : P draft)
    (read : namedFields fields depth fuel first draft input = .ok (last, rest)) : P last := by
  induction fuel generalizing first draft input with
  | zero => cases read
  | succ fuel ih =>
    unfold namedFields at read
    obtain ⟨going, -, read⟩ := bind_eq_ok.mp read
    cases going with
    | ended =>
      cases read
      exact kept
    | more =>
      obtain ⟨⟨name, after⟩, -, read⟩ := bind_eq_ok.mp read
      dsimp only at read
      split at read
      · rename_i field found
        split at read
        · cases read
        · obtain ⟨after, -, read⟩ := bind_eq_ok.mp read
          obtain ⟨⟨next, after⟩, stored, read⟩ := bind_eq_ok.mp read
          exact ih (keeps field (List.mem_of_find?_eq_some found) kept stored) read
      · obtain ⟨after, -, read⟩ := bind_eq_ok.mp read
        obtain ⟨after, -, read⟩ := bind_eq_ok.mp read
        exact ih kept read

theorem keeps_of_orderedFields {draft last : σ} {input : Bytes} (kept : P draft)
    (read : orderedFields depth fields first draft input = .ok (last, rest)) : P last := by
  induction fields generalizing first draft input with
  | nil =>
    unfold orderedFields at read
    split at read
    · cases read
    · split at read <;> cases read
      exact kept
  | cons field fields ih =>
    obtain ⟨here, later⟩ := List.forall_mem_cons.mp keeps
    unfold orderedFields at read
    obtain ⟨going, -, read⟩ := bind_eq_ok.mp read
    cases going with
    | ended =>
      cases read
      exact kept
    | more =>
      obtain ⟨⟨next, after⟩, stored, read⟩ := bind_eq_ok.mp read
      exact ih later (here kept stored) read

theorem keeps_of_record {α : Type} {start : σ} {finish : σ → Option α} {a : α} {input : Bytes}
    (begins : P start) (read : record fields start finish (depth + 1) input = .ok (a, rest)) :
    ∃ draft, P draft ∧ finish draft = some a := by
  unfold record at read
  dsimp only at read
  split at read
  · cases read
  split at read
  · obtain ⟨⟨draft, after⟩, filled, read⟩ := bind_eq_ok.mp read
    dsimp only at read
    split at read
    · cases read
      exact ⟨draft, keeps_of_namedFields keeps begins filled, ‹_›⟩
    · cases read
  split at read
  · obtain ⟨⟨draft, after⟩, filled, read⟩ := bind_eq_ok.mp read
    dsimp only at read
    split at read
    · cases read
      exact ⟨draft, keeps_of_orderedFields keeps begins filled, ‹_›⟩
    · cases read
  · cases read

end keeps

end fields

end TunnelSoak.Json
