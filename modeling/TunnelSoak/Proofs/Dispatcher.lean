import TunnelSoak.Dispatcher
import TunnelSoak.Proofs.History

/-! What the dispatcher makes of a notice when it arrives and when its settle delay is
over. Only an arrival counts, and only the end of a delay touches slots and coin. -/
namespace TunnelSoak

/-- The request that follows an establishment when the coin was flipped so often before. -/
def Mode.request (mode : Mode) (coin : Nat → Bool) (flips : Nat) : Request :=
  match mode with
  | .reconnectTunnel => .reconnect
  | .restartController => .restart
  | .reconnectAndRestart => if coin flips then .restart else .reconnect

def Mode.flipsEach : Mode → Nat
  | .reconnectAndRestart => 1
  | _ => 0

namespace Dispatcher

theorem arrive_of_establishes (d : Dispatcher) {notice : List UInt8}
    (h : Notice.establishes notice = true) :
    d.arrive notice =
      (.established (d.tracker.established + 1), { d with tracker := d.tracker.increment }) := by
  unfold Notice.establishes at h
  unfold arrive
  split at h
  · rename_i count classified
    simp only [classified, of_decide_eq_true h, if_true]
    rfl
  · simp at h

theorem arrive_of_not_establishes (d : Dispatcher) {notice : List UInt8}
    (h : Notice.establishes notice = false) :
    ∃ result, d.arrive notice = (.finished result, d) := by
  unfold Notice.establishes at h
  unfold arrive
  split
  · rename_i count classified
    simp only [classified, decide_eq_false_iff_not] at h
    exact ⟨_, if_neg h⟩
  all_goals exact ⟨_, rfl⟩

section settle
variable (coin : Nat → Bool) (d : Dispatcher)

theorem choose_eq :
    d.choose coin =
      (d.mode.request coin d.flips, { d with flips := d.flips + d.mode.flipsEach }) := by
  rcases d with ⟨mode, _, _, _, _, _, _⟩
  cases mode <;> rfl

theorem post_tracker (request : Request) : (d.post request).2.tracker = d.tracker := by
  unfold post
  split
  · rfl
  · cases request <;> rfl

theorem post_mode (request : Request) : (d.post request).2.mode = d.mode := by
  unfold post
  split
  · rfl
  · cases request <;> rfl

theorem settle_eq :
    d.settle coin =
      { d with flips := d.flips + d.mode.flipsEach }.post (d.mode.request coin d.flips) := by
  unfold settle
  rw [choose_eq]

@[simp] theorem settle_tracker : (d.settle coin).2.tracker = d.tracker := by
  rw [settle_eq, post_tracker]

@[simp] theorem settle_mode : (d.settle coin).2.mode = d.mode := by
  rw [settle_eq, post_mode]

end settle

end Dispatcher

end TunnelSoak
