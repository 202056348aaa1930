import TunnelSoak.Proofs.Dispatcher

/-! The balance of a dispatcher. Every establishment is in its settle delay or came to
one result, and every request that was posted was taken or is still in its slot. A
balance says this of a dispatcher, the results so far, the requests taken so far and
the number of establishments that settle; each operation of the dispatcher keeps it. -/
namespace TunnelSoak

def Dispatched.request? : Dispatched → Option Request
  | .posted request => some request
  | .dropped request => some request
  | _ => none

theorem Request.length_eq_count (requests : List Request) :
    requests.length = requests.count .reconnect + requests.count .restart := by
  induction requests with
  | nil => rfl
  | cons request requests ih => cases request <;> simp [ih] <;> omega

def Mode.makes : Mode → Request → Bool
  | .reconnectTunnel, .restart => false
  | .restartController, .reconnect => false
  | _, _ => true

theorem Mode.makes_request (mode : Mode) (coin : Nat → Bool) (flips : Nat) :
    mode.makes (mode.request coin flips) = true := by
  cases mode with
  | reconnectAndRestart => simp [makes]
  | _ => rfl

namespace Dispatcher

def posted (results : List Dispatched) : Nat :=
  results.count (.posted .reconnect) + results.count (.posted .restart)

def dropped (results : List Dispatched) : Nat :=
  results.count (.dropped .reconnect) + results.count (.dropped .restart)

section cons
variable (request : Request) (results : List Dispatched)

@[simp] theorem posted_cons_posted : posted (.posted request :: results) = posted results + 1 := by
  cases request <;> simp [posted] <;> omega

@[simp] theorem posted_cons_dropped : posted (.dropped request :: results) = posted results := by
  simp [posted]

@[simp] theorem dropped_cons_posted : dropped (.posted request :: results) = dropped results := by
  simp [dropped]

@[simp] theorem dropped_cons_dropped :
    dropped (.dropped request :: results) = dropped results + 1 := by
  cases request <;> simp [dropped] <;> omega

variable {result : Dispatched} (none : result.request? = none)
include none

theorem count_cons_aside (other : Dispatched) (made : other.request?.isSome = true) :
    (result :: results).count other = results.count other := by
  apply List.count_cons_of_ne
  intro same
  rw [← same, none] at made
  cases made

theorem posted_cons_aside : posted (result :: results) = posted results := by
  unfold posted
  rw [count_cons_aside results none (.posted .reconnect) rfl,
    count_cons_aside results none (.posted .restart) rfl]

theorem dropped_cons_aside : dropped (result :: results) = dropped results := by
  unfold dropped
  rw [count_cons_aside results none (.dropped .reconnect) rfl,
    count_cons_aside results none (.dropped .restart) rfl]

end cons

theorem not_mem_of_dropped {results : List Dispatched} (h : dropped results = 0)
    (request : Request) : .dropped request ∉ results := by
  unfold dropped at h
  apply List.count_eq_zero.mp
  cases request <;> omega

@[simp] theorem pending_setPending_self (d : Dispatcher) (request : Request) (full : Bool) :
    (d.setPending request full).pending request = full := by
  cases request <;> rfl

theorem pending_setPending_of_ne (d : Dispatcher) {request other : Request} (full : Bool)
    (h : other ≠ request) : (d.setPending request full).pending other = d.pending other := by
  cases request <;> cases other <;> first | rfl | exact absurd rfl h

section setPending
variable (d : Dispatcher) (request : Request) (full : Bool)

@[simp] theorem setPending_tracker : (d.setPending request full).tracker = d.tracker := by
  cases request <;> rfl

@[simp] theorem setPending_mode : (d.setPending request full).mode = d.mode := by
  cases request <;> rfl

@[simp] theorem setPending_flips : (d.setPending request full).flips = d.flips := by
  cases request <;> rfl

@[simp] theorem setPending_closed : (d.setPending request full).closed = d.closed := by
  cases request <;> rfl

end setPending

def flipped (d : Dispatcher) : Dispatcher := { d with flips := d.flips + d.mode.flipsEach }

@[simp] theorem flipped_pending (d : Dispatcher) (request : Request) :
    d.flipped.pending request = d.pending request := by
  cases request <;> rfl

structure Balanced (d : Dispatcher) (results : List Dispatched) (taken : List Request)
    (settling : Nat) : Prop where
  established : d.tracker.established = posted results + dropped results + settling
  slots : d.closed = false → ∀ request,
    results.count (.posted request) = taken.count request + (d.pending request).toNat
  unmade : ∀ request, d.mode.makes request = false →
    results.count (.posted request) = 0 ∧ results.count (.dropped request) = 0 ∧
      d.pending request = false
  flips : d.flips = (posted results + dropped results) * d.mode.flipsEach

theorem balanced_new (mode : Mode) (settleMs : Nat) :
    ({ mode, settleMs } : Dispatcher).Balanced [] [] 0 := by
  refine ⟨rfl, fun _ request => ?_, fun request _ => ⟨rfl, rfl, ?_⟩, (Nat.zero_mul _).symm⟩
  · cases request <;> rfl
  · cases request <;> rfl

/-- An establishment that finds its slot full, or the loop gone, comes to nothing; any other
fills its slot. -/
theorem settle_cases (coin : Nat → Bool) (d : Dispatcher) :
    let request := d.mode.request coin d.flips
    ((d.closed = true ∨ d.pending request = true) ∧
        d.settle coin = (.dropped request, d.flipped)) ∨
      (d.closed = false ∧ d.pending request = false ∧
        d.settle coin = (.posted request, d.flipped.setPending request true)) := by
  intro request
  have settled : d.settle coin =
      if d.closed || d.pending request then (.dropped request, d.flipped)
      else (.posted request, d.flipped.setPending request true) := by
    rw [settle_eq, ← flipped, post, flipped_pending]
    rfl
  rw [settled]
  cases closed : d.closed with
  | true => exact .inl ⟨.inl rfl, rfl⟩
  | false =>
    cases full : d.pending request with
    | true => exact .inl ⟨.inr rfl, rfl⟩
    | false => exact .inr ⟨rfl, rfl, rfl⟩

@[simp] theorem settle_settleMs (coin : Nat → Bool) (d : Dispatcher) :
    (d.settle coin).2.settleMs = d.settleMs := by
  rcases d.settle_cases coin with ⟨-, settled⟩ | ⟨-, -, settled⟩
  · rw [settled]
    rfl
  · rw [settled]
    cases d.mode.request coin d.flips <;> rfl

theorem settle_full (coin : Nat → Bool) (d : Dispatcher) (request : Request) :
    ((d.settle coin).1 = .dropped request → d.pending request = true ∨ d.closed = true) ∧
      ((d.settle coin).1.request? = some request →
        (d.settle coin).2.pending request = true ∨ (d.settle coin).2.closed = true) := by
  rcases d.settle_cases coin with ⟨full, settled⟩ | ⟨isOpen, empty, settled⟩
  · rw [settled]
    constructor
    · intro same
      cases same
      exact full.symm
    · intro same
      cases same
      rw [flipped_pending]
      exact full.symm
  · rw [settled]
    constructor
    · nofun
    · intro same
      cases same
      exact .inl (pending_setPending_self _ _ _)

def requests (d : Dispatcher) : Nat := d.reconnect.toNat + d.restart.toNat

theorem pending_of_requests {d : Dispatcher} (empty : d.requests = 0) (request : Request) :
    d.pending request = false := by
  unfold requests at empty
  apply Bool.eq_false_iff.mpr
  intro full
  cases request <;> simp [pending] at full <;> simp [full] at empty

theorem requests_take {d : Dispatcher} {request : Request} (full : d.pending request = true) :
    (d.take request).2.requests + 1 = d.requests := by
  unfold requests
  cases request <;> simp [pending] at full <;> simp [take, setPending, full]
  omega

theorem settle_of_empty (coin : Nat → Bool) {d : Dispatcher} (isOpen : d.closed = false)
    (empty : d.requests = 0) :
    ∃ request, (d.settle coin).1 = .posted request ∧ (d.settle coin).2.requests = 1 := by
  have slots := pending_of_requests empty
  rcases d.settle_cases coin with ⟨closed | full, -⟩ | ⟨-, -, settled⟩
  · rw [isOpen] at closed
    cases closed
  · rw [slots] at full
    cases full
  · refine ⟨_, congrArg Prod.fst settled, ?_⟩
    have reconnect : d.reconnect = false := slots .reconnect
    have restart : d.restart = false := slots .restart
    rw [settled]
    cases d.mode.request coin d.flips <;> simp [requests, setPending, flipped, reconnect, restart]

theorem arrive_quiet (d : Dispatcher) {notice : List UInt8}
    (quiet : Notice.establishes notice = false) :
    ∃ result, result.request? = none ∧ d.arrive notice = (.finished result, d) := by
  unfold Notice.establishes at quiet
  unfold arrive
  split
  · rename_i count classified
    simp only [classified, decide_eq_false_iff_not] at quiet
    exact ⟨.ignored, rfl, if_neg quiet⟩
  · rename_i message classified
    refine ⟨_, ?_, rfl⟩
    split <;> rfl
  · exact ⟨.ignored, rfl, rfl⟩
  · exact ⟨.ignored, rfl, rfl⟩

namespace Balanced
variable {d : Dispatcher} {results : List Dispatched} {taken : List Request} {settling : Nat}

theorem perm {others : List Dispatched} (balanced : d.Balanced results taken settling)
    (h : results.Perm others) : d.Balanced others taken settling := by
  have same (result : Dispatched) : others.count result = results.count result :=
    (h.count_eq result).symm
  obtain ⟨established, slots, unmade, flips⟩ := balanced
  simp only [posted, dropped, ← same] at established slots unmade flips
  exact ⟨established, slots, unmade, flips⟩

theorem arrived (balanced : d.Balanced results taken settling) :
    { d with tracker := d.tracker.increment }.Balanced results taken (settling + 1) := by
  obtain ⟨established, slots, unmade, flips⟩ := balanced
  refine ⟨?_, slots, unmade, flips⟩
  change d.tracker.established + 1 = _
  omega

theorem aside (balanced : d.Balanced results taken settling) {result : Dispatched}
    (none : result.request? = none) : d.Balanced (result :: results) taken settling := by
  obtain ⟨established, slots, unmade, flips⟩ := balanced
  have posted := posted_cons_aside results none
  have dropped := dropped_cons_aside results none
  refine ⟨by rw [posted, dropped, established], ?_, ?_, by rw [posted, dropped, flips]⟩
  · intro isOpen request
    rw [count_cons_aside results none (.posted request) rfl]
    exact slots isOpen request
  · intro request foreign
    rw [count_cons_aside results none (.posted request) rfl,
      count_cons_aside results none (.dropped request) rfl]
    exact unmade request foreign

theorem settled (coin : Nat → Bool) (balanced : d.Balanced results taken (settling + 1)) :
    (d.settle coin).2.Balanced ((d.settle coin).1 :: results) taken settling := by
  obtain ⟨established, slots, unmade, flips⟩ := balanced
  have other {request : Request} (foreign : d.mode.makes request = false) :
      d.mode.request coin d.flips ≠ request := by
    intro same
    rw [← same, d.mode.makes_request] at foreign
    cases foreign
  rcases d.settle_cases coin with ⟨-, settled⟩ | ⟨isOpen, empty, settled⟩
  · rw [settled]
    refine ⟨?_, ?_, ?_, ?_⟩
    · simp only [posted_cons_dropped, dropped_cons_dropped]
      change d.tracker.established = _
      omega
    · intro isOpen request
      simpa using slots isOpen request
    · intro request foreign
      simpa [other foreign] using unmade request foreign
    · simp only [posted_cons_dropped, dropped_cons_dropped]
      change d.flips + d.mode.flipsEach = _ * d.mode.flipsEach
      rw [flips, ← Nat.add_assoc, Nat.succ_mul]
  · rw [settled]
    refine ⟨?_, ?_, ?_, ?_⟩
    · simp only [posted_cons_posted, dropped_cons_posted, setPending_tracker]
      change d.tracker.established = _
      omega
    · intro _ request
      have before := slots isOpen request
      -- only the slot of the request itself is filled, and it was empty before
      by_cases same : request = d.mode.request coin d.flips
      · subst same
        rw [empty] at before
        simp [before]
      · rw [pending_setPending_of_ne _ _ same, flipped_pending]
        simpa [Ne.symm same] using before
    · intro request foreign
      rw [setPending_mode] at foreign
      have apart : d.mode.request coin d.flips ≠ request := other foreign
      rw [pending_setPending_of_ne _ _ apart.symm, flipped_pending]
      simpa [apart] using unmade request foreign
    · simp only [posted_cons_posted, dropped_cons_posted, setPending_flips, setPending_mode]
      change d.flips + d.mode.flipsEach = _ * d.mode.flipsEach
      rw [flips, Nat.add_right_comm, Nat.succ_mul]

theorem took (balanced : d.Balanced results taken settling) (isOpen : d.closed = false)
    (request : Request) :
    (d.take request).2.Balanced results
      ((if d.pending request then [request] else []) ++ taken) settling := by
  obtain ⟨established, slots, unmade, flips⟩ := balanced
  unfold take
  refine ⟨?_, ?_, ?_, ?_⟩
  · simpa using established
  · intro _ other
    have before := slots isOpen other
    by_cases same : other = request
    · subst same
      cases full : d.pending other <;> simp [full] at before ⊢
      · exact before
      · omega
    · rw [pending_setPending_of_ne _ _ same]
      cases d.pending request <;> simp [Ne.symm same, before]
  · intro other foreign
    obtain ⟨none, lost, empty⟩ := unmade other (by simpa using foreign)
    refine ⟨none, lost, ?_⟩
    by_cases same : other = request
    · subst same
      simp
    · simpa [pending_setPending_of_ne _ _ same] using empty
  · simpa using flips

/-- While the slots are open, every establishment that is not dropped is taken, pending or in
its settle delay. -/
theorem whereabouts (balanced : d.Balanced results taken settling) (isOpen : d.closed = false) :
    d.tracker.established = taken.length + d.requests + dropped results + settling := by
  obtain ⟨established, slots, -, -⟩ := balanced
  have kinds := Request.length_eq_count taken
  have reconnect := slots isOpen .reconnect
  have restart := slots isOpen .restart
  unfold posted at established
  unfold requests
  simp only [pending] at reconnect restart
  omega

theorem shut (balanced : d.Balanced results taken settling) :
    d.close.Balanced results taken settling := by
  obtain ⟨established, slots, unmade, flips⟩ := balanced
  refine ⟨established, nofun, fun request foreign => ?_, flips⟩
  obtain ⟨none, lost, -⟩ := unmade request foreign
  refine ⟨none, lost, ?_⟩
  cases request <;> rfl

end Balanced

end Dispatcher

end TunnelSoak
