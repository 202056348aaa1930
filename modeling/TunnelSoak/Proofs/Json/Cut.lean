import TunnelSoak.Proofs.Json.Record

/-! Texts that are cut off. A reader that is given a proper prefix of what has been written
finds that the input ends too early, wherever the cut is: in an escape, in a keyword, after a
comma. Only a number cannot tell, whose digits may well end there; what has been opened around
it can. -/
namespace TunnelSoak.Json

def Cut (p text : Bytes) : Prop := ∃ b rest, text = p ++ b :: rest

namespace Cut

theorem iff_prefix {p text : Bytes} : Cut p text ↔ p <+: text ∧ p ≠ text := by
  constructor
  · rintro ⟨b, rest, rfl⟩
    exact ⟨List.prefix_append _ _, by simp⟩
  · rintro ⟨⟨rest, rfl⟩, proper⟩
    cases rest with
    | nil => exact absurd (List.append_nil p).symm proper
    | cons b rest => exact ⟨b, rest, rfl⟩

theorem not_nil {p : Bytes} : ¬ Cut p [] := by
  rintro ⟨b, rest, cut⟩
  cases p <;> cases cut

theorem cons {p text : Bytes} {b : UInt8} (cut : Cut p (b :: text)) :
    p = [] ∨ ∃ q, p = b :: q ∧ Cut q text := by
  obtain ⟨c, rest, cut⟩ := cut
  cases p with
  | nil => exact .inl rfl
  | cons d q =>
    cases cut
    exact .inr ⟨q, rfl, c, rest, rfl⟩

theorem singleton {p : Bytes} {b : UInt8} (cut : Cut p [b]) : p = [] := by
  rcases cut.cons with none | ⟨q, -, more⟩
  · exact none
  · exact absurd more not_nil

theorem append {p text more : Bytes} (cut : Cut p (text ++ more)) :
    Cut p text ∨ ∃ q, p = text ++ q ∧ Cut q more := by
  obtain ⟨b, rest, same⟩ := cut
  rcases List.append_eq_append_iff.mp same with ⟨q, whole, behind⟩ | ⟨left, whole, behind⟩
  · exact .inr ⟨q, whole, b, rest, behind⟩
  · cases left with
    | nil => exact .inr ⟨[], by simpa using whole.symm, b, rest, behind.symm⟩
    | cons c left =>
      cases behind
      exact .inl ⟨b, left, whole⟩

end Cut

theorem endsAt_of_cut {p text : Bytes} (cut : Cut p text) (ends : Numeral.endsAt text = true) :
    Numeral.endsAt p = true := by
  obtain ⟨b, rest, rfl⟩ := cut
  cases p with
  | nil => rfl
  | cons c q => exact ends

theorem keyword_cut {k p : Bytes} (cut : Cut p k) : keyword k p = .error .eof := by
  induction k generalizing p with
  | nil => exact absurd cut Cut.not_nil
  | cons c k ih =>
    rcases cut.cons with rfl | ⟨q, rfl, later⟩
    · rfl
    · rw [keyword, if_pos rfl]
      exact ih later

namespace Quoted

theorem contents_nil : contents [] = .error .eof := by rw [contents.eq_def]

theorem contents_cut_escape {b : UInt8} {p : Bytes} (cut : Cut p (escape b)) :
    contents p = .error .eof := by
  have how := escaped b
  generalize escape b = text at how cut
  cases how with
  | letter =>
    rcases cut.cons with rfl | ⟨q, rfl, later⟩
    · exact contents_nil
    · rw [later.singleton, contents.eq_def]
      rfl
  | control =>
    -- the slash, the letter and up to three of the four digits
    rcases cut.cons with rfl | ⟨q, rfl, second⟩
    · exact contents_nil
    rcases second.cons with rfl | ⟨q, rfl, third⟩
    · rw [contents.eq_def]
      rfl
    rcases third.cons with rfl | ⟨q, rfl, fourth⟩
    · rw [contents.eq_def]
      rfl
    rcases fourth.cons with rfl | ⟨q, rfl, fifth⟩
    · rw [contents.eq_def]
      rfl
    rcases fifth.cons with rfl | ⟨q, rfl, sixth⟩
    · rw [contents.eq_def]
      rfl
    · rw [sixth.singleton, contents.eq_def]
      rfl
  | plain =>
    rw [cut.singleton]
    exact contents_nil

theorem contents_cut {bytes p : Bytes} (cut : Cut p (bytes.flatMap escape ++ [34])) :
    contents p = .error .eof := by
  induction bytes generalizing p with
  | nil =>
    rw [Cut.singleton cut]
    exact contents_nil
  | cons b bytes ih =>
    rw [List.flatMap_cons, List.append_assoc] at cut
    rcases cut.append with here | ⟨q, rfl, later⟩
    · exact contents_cut_escape here
    · rw [contents_escape, ih later]
      rfl

theorem decode_cut {text : String} {p : Bytes} (cut : Cut p (afterQuote text)) :
    decode p = .error .eof := by
  rw [decode, contents_cut cut]

end Quoted

theorem Numeral.written_cut {n : Nat} {p : Bytes} (cut : Cut p (written n)) :
    p = [] ∨ ∃ m, 0 < m ∧ m < n ∧ p = written m := by
  induction n using Nat.strongRecOn generalizing p with
  | ind n ih =>
    unfold written at cut
    rw [Nat.toDigits_eq_if (by decide)] at cut
    by_cases small : n < 10
    · rw [if_pos small] at cut
      exact .inl (Cut.singleton cut)
    · have shorter : n / 10 < n := Nat.div_lt_self (by omega) (by decide)
      rw [if_neg small, List.map_append] at cut
      rcases cut.append with here | ⟨q, rfl, last⟩
      · rcases ih (n / 10) shorter here with none | ⟨m, positive, less, digits⟩
        · exact .inl none
        · exact .inr ⟨m, positive, Nat.lt_trans less shorter, digits⟩
      · refine .inr ⟨n / 10, by omega, shorter, ?_⟩
        rw [Cut.singleton last, List.append_nil]
        rfl

/-- The input has ended, in the middle of something or after it. -/
def Ended {α : Type} (reading : Except Fault (Reading α)) : Prop :=
  reading = .error .eof ∨ ∃ a, reading = .ok (a, [])

theorem Ended.map {α β : Type} {reading : Except Fault (Reading α)} (ended : Ended reading)
    (f : α → β) : Ended (reading.map fun (a, rest) => (f a, rest)) := by
  rcases ended with rfl | ⟨a, rfl⟩
  · exact .inl rfl
  · exact .inr ⟨f a, rfl⟩

theorem readNumber_cut {n : Int} (whole : (Number.int n).IsWhole) {p : Bytes}
    (cut : Cut p (Numeral.written n.natAbs)) : Ended (readNumber (decide (n < 0)) p) := by
  rcases Numeral.written_cut cut with rfl | ⟨m, positive, less, rfl⟩
  · exact .inl rfl
  · obtain ⟨low, high⟩ := whole
    by_cases negative : n < 0
    · have shorter : (Number.int (-(m : Int))).IsWhole := ⟨by omega, by omega⟩
      have read := @readNumber_written _ shorter [] rfl
      have sign : decide (-(m : Int) < 0) = decide (n < 0) := by
        rw [decide_eq_true negative, decide_eq_true (by omega)]
      rw [sign, Int.natAbs_neg, Int.natAbs_natCast, List.append_nil] at read
      exact .inr ⟨_, read⟩
    · have shorter : (Number.int (m : Int)).IsWhole := ⟨by omega, by omega⟩
      have read := @readNumber_written _ shorter [] rfl
      have sign : decide ((m : Int) < 0) = decide (n < 0) := by
        rw [decide_eq_false negative, decide_eq_false (by omega)]
      rw [sign, Int.natAbs_natCast, List.append_nil] at read
      exact .inr ⟨_, read⟩

/-- A cut text of the value leaves its reader at the end of the input. -/
def Breaks (depth : Nat) (v : Value) : Prop :=
  ∀ fuel p, Cut p v.encode → 2 * p.length < fuel → Ended (valueAt fuel depth p)

theorem Breaks.of_succ {depth : Nat} {v : Value}
    (step : ∀ fuel p, Cut p v.encode → 2 * p.length ≤ fuel →
      Ended (valueAt (fuel + 1) depth p)) : Breaks depth v := by
  intro fuel p cut enough
  obtain ⟨fuel, rfl⟩ : ∃ n, fuel = n + 1 := ⟨fuel - 1, by omega⟩
  exact step fuel p cut (Nat.le_of_lt_succ enough)

section next
variable {close : UInt8} {first : Bool}

theorem next_cut_lead {p : Bytes} (cut : Cut p (lead first)) :
    next close first p = .error .eof := by
  cases first with
  | true => exact absurd cut Cut.not_nil
  | false =>
    rw [Cut.singleton cut]
    rfl

theorem next_lead_nil (comma : close ≠ 44) :
    next close first (lead first ++ []) = .error .eof := by
  cases first with
  | true => rfl
  | false =>
    change next close false [44] = _
    simp [next, skipBlanks_cons (show isBlank 44 = false by decide), comma.symm]
    rfl

end next

section items
variable {depth fuel : Nat} {first : Bool}

theorem items_nil : items fuel depth first [] = .error .eof := by
  cases fuel <;> rfl

theorem Reads.starts_cut {v : Value} (reads : Reads depth v) {b : UInt8} {q : Bytes}
    (cut : Cut (b :: q) v.encode) : isBlank b = false ∧ b ≠ 93 ∧ b ≠ 125 := by
  obtain ⟨c, tail, text, starts⟩ := reads.starts
  obtain ⟨d, rest, whole⟩ := cut
  rw [whole, List.cons_append] at text
  cases text
  exact starts

theorem items_cut_first {v : Value} (reads : Reads depth v) (breaks : Breaks depth v) {q : Bytes}
    (cut : Cut q v.encode) (enough : 2 * q.length < fuel) :
    items (fuel + 1) depth first (lead first ++ q) = .error .eof := by
  cases q with
  | nil =>
    rw [items, next_lead_nil (by decide)]
    rfl
  | cons b q =>
    obtain ⟨visible, bracket, -⟩ := reads.starts_cut cut
    rw [items, next_lead visible bracket (by decide)]
    rcases breaks fuel _ cut enough with ended | ⟨v, ended⟩
    · simp only [ok_bind, ended]
      rfl
    · simp only [ok_bind, ended, items_nil]
      rfl

theorem items_cut {vs : List Value} (reads : ∀ v ∈ vs, Reads depth v)
    (breaks : ∀ v ∈ vs, Breaks depth v) {p : Bytes}
    (cut : Cut p (listed first (vs.map Value.encode) ++ [93])) (enough : 2 * p.length + 1 < fuel) :
    items fuel depth first p = .error .eof := by
  induction vs generalizing first fuel p with
  | nil =>
    rw [Cut.singleton cut]
    exact items_nil
  | cons v vs ih =>
    obtain ⟨here, later⟩ := List.forall_mem_cons.mp reads
    obtain ⟨breaks, breakLater⟩ := List.forall_mem_cons.mp breaks
    obtain ⟨fuel, rfl⟩ : ∃ n, fuel = n + 1 := ⟨fuel - 1, by omega⟩
    rw [List.map_cons, listed, List.append_assoc, List.append_assoc] at cut
    rcases cut.append with before | ⟨q, rfl, behind⟩
    · rw [items, next_cut_lead before]
      rfl
    rw [List.length_append] at enough
    rcases behind.append with within | ⟨q, rfl, after⟩
    · exact items_cut_first here breaks within (by omega)
    · obtain ⟨b, tail, text, -⟩ := here.starts
      have some_text : 0 < v.encode.length := by simp [text]
      rw [List.length_append] at enough
      rw [items_cons here (by omega) (endsAt_of_cut after (endsAt_listed _ [] rfl)),
        ih later breakLater after (by omega)]
      rfl

end items

/-- How far a member is read whose text is cut off. -/
inductive MemberCut (member : String × Bytes) (first : Bool) (q : Bytes) : Prop
  | outside (none : next 125 first (lead first ++ q) = .error .eof)
  | unread (found : next 125 first (lead first ++ q) = .ok (.more q))
    (unread : key q = .error .eof)
  | bare {after : Bytes} (found : next 125 first (lead first ++ q) = .ok (.more q))
    (named : key q = .ok (member.1, after)) (missing : colon after = .error .eof)
  | inside {after p : Bytes} (found : next 125 first (lead first ++ q) = .ok (.more q))
    (named : key q = .ok (member.1, after)) (colon : colon after = .ok p)
    (within : Cut p member.2) (shorter : p.length < q.length)

theorem memberCut_of_cut {member : String × Bytes} (first : Bool) {q : Bytes}
    (cut : Cut q (memberText member)) : MemberCut member first q := by
  rw [memberText, Quoted.encode_eq, List.cons_append] at cut
  rcases cut.cons with rfl | ⟨q, rfl, quoted⟩
  · exact .outside (next_lead_nil (by decide))
  have found : next 125 first (lead first ++ 34 :: q) = .ok (.more (34 :: q)) :=
    next_lead (by decide) (by decide) (by decide)
  rcases quoted.append with unquoted | ⟨q, rfl, after⟩
  · exact .unread found (Quoted.decode_cut unquoted)
  have named : key (34 :: (Quoted.afterQuote member.1 ++ q)) = .ok (member.1, q) :=
    Quoted.decode_afterQuote q member.1
  rcases after.cons with rfl | ⟨q, rfl, within⟩
  · exact .bare found named rfl
  · refine .inside found named rfl within ?_
    simp only [List.length_cons, List.length_append]
    omega

section members
variable {depth fuel : Nat} {first : Bool}

theorem members_nil : members fuel depth first [] = .error .eof := by
  cases fuel <;> rfl

theorem members_cut_first {name : String} {v : Value} (reads : Reads depth v)
    (breaks : Breaks depth v) {q : Bytes} (cut : Cut q (memberText (name, v.encode)))
    (enough : 2 * q.length < fuel) :
    members (fuel + 1) depth first (lead first ++ q) = .error .eof := by
  cases memberCut_of_cut first cut with
  | outside none =>
    rw [members, none]
    rfl
  | unread found unread =>
    simp only [members, found, ok_bind, unread]
    rfl
  | bare found named missing =>
    simp only [members, found, ok_bind, named, missing]
    rfl
  | @inside after p found named colon within shorter =>
    have visible : skipBlanks p = p := by
      cases p with
      | nil => rfl
      | cons b p => exact skipBlanks_cons (reads.starts_cut within).1
    simp only [members, found, ok_bind, named, colon, visible]
    rcases breaks fuel p within (by omega) with ended | ⟨v, ended⟩
    · simp only [ended]
      rfl
    · simp only [ok_bind, ended, members_nil]
      rfl

theorem members_cut {ms : Members} (reads : ∀ m ∈ ms, Reads depth m.2)
    (breaks : ∀ m ∈ ms, Breaks depth m.2) {p : Bytes}
    (cut : Cut p (listed first ((encodeMembers ms).map memberText) ++ [125]))
    (enough : 2 * p.length + 1 < fuel) : members fuel depth first p = .error .eof := by
  induction ms generalizing first fuel p with
  | nil =>
    rw [Cut.singleton cut]
    exact members_nil
  | cons m ms ih =>
    obtain ⟨name, v⟩ := m
    obtain ⟨(here : Reads depth v), later⟩ := List.forall_mem_cons.mp reads
    obtain ⟨(breaks : Breaks depth v), breakLater⟩ := List.forall_mem_cons.mp breaks
    obtain ⟨fuel, rfl⟩ : ∃ n, fuel = n + 1 := ⟨fuel - 1, by omega⟩
    rw [encodeMembers, List.map_cons, listed, List.append_assoc, List.append_assoc] at cut
    rcases cut.append with before | ⟨q, rfl, behind⟩
    · rw [members, next_cut_lead before]
      rfl
    rw [List.length_append] at enough
    rcases behind.append with within | ⟨q, rfl, after⟩
    · exact members_cut_first here breaks within (by omega)
    · have text : (memberText (name, v.encode)).length =
          (Quoted.encode name).length + (v.encode.length + 1) := List.length_append
      rw [List.length_append, text] at enough
      have ends := endsAt_of_cut after (endsAt_listed _ [] rfl)
      rw [members_cons here.skipBlanks (here fuel _ (by omega) ends),
        ih later breakLater after (by omega)]
      rfl

end members

section keywords
variable {fuel depth : Nat} {rest : Bytes}

theorem valueAt_null : valueAt (fuel + 1) depth (110 :: rest) =
    (keyword (ascii "ull") rest).map fun rest => (.null, rest) := by
  simp [valueAt]

theorem valueAt_true : valueAt (fuel + 1) depth (116 :: rest) =
    (keyword (ascii "rue") rest).map fun rest => (.bool true, rest) := by
  simp [valueAt]

theorem valueAt_false : valueAt (fuel + 1) depth (102 :: rest) =
    (keyword (ascii "alse") rest).map fun rest => (.bool false, rest) := by
  simp [valueAt]

end keywords

theorem valueAt_cut_int {fuel depth : Nat} {n : Int} (whole : (Number.int n).IsWhole) {p : Bytes}
    (cut : Cut p (Number.int n).encode) : Ended (valueAt (fuel + 1) depth p) := by
  rw [Number.encode, ascii_toString_int] at cut
  by_cases negative : n < 0
  · rw [if_pos negative] at cut
    rcases cut.cons with rfl | ⟨q, rfl, digits⟩
    · exact .inl rfl
    · have read := readNumber_cut whole digits
      rw [decide_eq_true negative] at read
      rw [valueAt_minus]
      exact read.map _
  · rw [if_neg negative] at cut
    cases p with
    | nil => exact .inl rfl
    | cons b p =>
      have read := readNumber_cut whole cut
      have digit : Numeral.isDigit b = true := by
        obtain ⟨c, rest, text⟩ := cut
        exact Numeral.isDigit_of_mem_written n.natAbs b (text ▸ List.mem_cons_self)
      rw [decide_eq_false negative] at read
      rw [valueAt_digit digit]
      exact read.map _

theorem breaks_of_lawful {depth : Nat} {v : Value} (lawful : v.Lawful Number.IsWhole depth) :
    Breaks depth v := by
  induction lawful with
  | null =>
    refine .of_succ fun fuel p cut enough => ?_
    have cut : Cut p (110 :: ascii "ull") := cut
    rcases cut.cons with rfl | ⟨q, rfl, rest⟩
    · exact .inl rfl
    · left
      rw [valueAt_null, keyword_cut rest]
      rfl
  | bool b =>
    refine .of_succ fun fuel p cut enough => ?_
    cases b with
    | true =>
      have cut : Cut p (116 :: ascii "rue") := cut
      rcases cut.cons with rfl | ⟨q, rfl, rest⟩
      · exact .inl rfl
      · left
        rw [valueAt_true, keyword_cut rest]
        rfl
    | false =>
      have cut : Cut p (102 :: ascii "alse") := cut
      rcases cut.cons with rfl | ⟨q, rfl, rest⟩
      · exact .inl rfl
      · left
        rw [valueAt_false, keyword_cut rest]
        rfl
  | @number depth n admitted =>
    cases n with
    | int n => exact .of_succ fun fuel p cut enough => valueAt_cut_int admitted cut
    | float x => exact absurd admitted nofun
  | string text =>
    refine .of_succ fun fuel p cut enough => .inl ?_
    rw [Value.encode, Quoted.encode_eq] at cut
    rcases cut.cons with rfl | ⟨q, rfl, quoted⟩
    · rfl
    · rw [valueAt_quote, Quoted.decode_cut quoted]
      rfl
  | @array depth vs within ih =>
    refine .of_succ fun fuel p cut enough => .inl ?_
    have reads : ∀ v ∈ vs, Reads depth v := fun v mem => reads_of_lawful (within v mem)
    have text : (Value.array vs).encode = 91 :: (listed true (vs.map Value.encode) ++ [93]) := by
      rw [Value.encode, commaSeparated_eq_listed, encodeItems_eq_map]
      rfl
    rw [text] at cut
    rcases cut.cons with rfl | ⟨q, rfl, inner⟩
    · rfl
    · rw [List.length_cons] at enough
      rw [valueAt_bracket, items_cut reads ih inner (by omega)]
      rfl
  | @object depth ms ordered within ih =>
    refine .of_succ fun fuel p cut enough => .inl ?_
    have reads : ∀ m ∈ ms, Reads depth m.2 := fun m mem => reads_of_lawful (within m mem)
    rw [Value.encode, objectOf_eq] at cut
    rcases cut.cons with rfl | ⟨q, rfl, inner⟩
    · rfl
    · rw [List.length_cons] at enough
      rw [valueAt_brace, members_cut reads ih inner (by omega)]
      rfl

section records
variable {depth : Nat}

theorem string_cut {text : String} {p : Bytes} (cut : Cut p (Quoted.encode text)) :
    string depth p = .error .eof := by
  rw [Quoted.encode_eq] at cut
  rcases cut.cons with rfl | ⟨q, rfl, quoted⟩
  · rfl
  · rw [string, skipBlanks_cons (by decide)]
    exact Quoted.decode_cut quoted

theorem optional_string_cut {text : String} {p : Bytes} (cut : Cut p (Quoted.encode text)) :
    optional string depth p = .error .eof := by
  have inner : string depth p = .error .eof := string_cut cut
  rw [Quoted.encode_eq] at cut
  rcases cut.cons with rfl | ⟨q, rfl, quoted⟩
  · rfl
  · rw [optional, skipBlanks_cons (by decide)]
    change (string depth (34 :: q)).map _ = _
    rw [inner]
    rfl

theorem freeObject_cut {ms : Members} (within : ∀ m ∈ ms, m.2.Lawful Number.IsWhole depth)
    {p : Bytes} (cut : Cut p (Members.encode ms)) : freeObject (depth + 1) p = .error .eof := by
  rw [Members.encode, objectOf_eq] at cut
  rcases cut.cons with rfl | ⟨q, rfl, inner⟩
  · rfl
  · rw [freeObject, skipBlanks_cons (by decide)]
    change (members _ depth true q).map _ = _
    rw [members_cut (fun m mem => reads_of_lawful (within m mem))
      (fun m mem => breaks_of_lawful (within m mem)) inner (by omega)]
    rfl

variable {σ : Type} {fields : List (Field σ)} {fuel : Nat} {first : Bool}

theorem namedFields_nil {draft : σ} :
    namedFields fields depth fuel first draft [] = .error .eof := by
  cases fuel <;> rfl

def CutShort (fields : List (Field σ)) (depth : Nat) (member : String × Bytes) : Prop :=
  ∀ field, fields.find? (fun field => field.name = member.1) = some field →
    ∀ draft p, Cut p member.2 → field.read depth draft p = .error .eof

theorem CutShort.of {α : Type} {name : String} {text : Bytes} {decoder : Decoder α}
    {get : σ → Option α} {set : σ → α → σ}
    (found : fields.find? (fun field => field.name = name) = some (.of name decoder get set))
    (short : ∀ p, Cut p text → decoder depth p = .error .eof) :
    CutShort fields depth (name, text) := by
  intro field same draft p cut
  cases found.symm.trans same
  simp only [Field.of, short p cut, Except.map]

theorem namedFields_cut_first {draft : σ} {member : String × Bytes} {field : Field σ}
    (found : fields.find? (fun field => field.name = member.1) = some field)
    (fresh : field.given draft = false) (short : CutShort fields depth member) {q : Bytes}
    (cut : Cut q (memberText member)) :
    namedFields fields depth (fuel + 1) first draft (lead first ++ q) = .error .eof := by
  cases memberCut_of_cut first cut with
  | outside none =>
    rw [namedFields, none]
    rfl
  | unread found unread =>
    simp only [namedFields, found, ok_bind, unread]
    rfl
  | bare begun named missing =>
    simp only [namedFields, begun, ok_bind, named, found, fresh, missing, Bool.false_eq_true,
      if_false]
    rfl
  | inside begun named colon within shorter =>
    simp only [namedFields, begun, ok_bind, named, found, fresh, colon, Bool.false_eq_true,
      if_false, short field found draft _ within]
    rfl

theorem Fills.namedFields_cut {draft last : σ} {members : List (String × Bytes)}
    (fills : Fills fields depth draft members last)
    (short : ∀ member ∈ members, CutShort fields depth member) {p : Bytes}
    (cut : Cut p (listed first (members.map memberText) ++ [125])) (enough : p.length < fuel) :
    Json.namedFields fields depth fuel first draft p = .error .eof := by
  induction fills generalizing first fuel p with
  | nil draft =>
    rw [Cut.singleton cut]
    exact namedFields_nil
  | @cons draft next last member members field found fresh read tail ih =>
    obtain ⟨here, later⟩ := List.forall_mem_cons.mp short
    obtain ⟨fuel, rfl⟩ : ∃ n, fuel = n + 1 := ⟨fuel - 1, by omega⟩
    rw [List.map_cons, listed, List.append_assoc, List.append_assoc] at cut
    rcases cut.append with before | ⟨q, rfl, behind⟩
    · rw [Json.namedFields, next_cut_lead before]
      rfl
    rcases behind.append with within | ⟨q, rfl, after⟩
    · exact namedFields_cut_first found fresh here within
    · have after_colon (rest : Bytes) :
          colon (58 :: (member.2 ++ rest)) = .ok (member.2 ++ rest) := rfl
      have ends : Numeral.endsAt q = true := endsAt_of_cut after (endsAt_listed _ [] rfl)
      have some_text : 0 < (memberText member).length := by
        rw [memberText, Quoted.encode_eq]
        simp
      simp only [List.length_append] at enough
      rw [Json.namedFields, next_member (by decide) (by decide)]
      simp only [ok_bind, key_member, found, fresh, after_colon, read q ends, Bool.false_eq_true,
        if_false]
      exact ih later after (by omega)

theorem Fills.record_cut {α : Type} {start last : σ} {finish : σ → Option α}
    {members : List (String × Bytes)} (fills : Fills fields depth start members last)
    (short : ∀ member ∈ members, CutShort fields depth member) {p : Bytes}
    (cut : Cut p (objectOf members)) :
    Json.record fields start finish (depth + 1) p = .error .eof := by
  rw [objectOf_eq] at cut
  rcases cut.cons with rfl | ⟨q, rfl, inner⟩
  · rfl
  · rw [Json.record, skipBlanks_cons (by decide)]
    change (Json.namedFields fields depth _ true start q >>= _) = _
    rw [fills.namedFields_cut short inner (by omega)]
    rfl

end records

end TunnelSoak.Json
