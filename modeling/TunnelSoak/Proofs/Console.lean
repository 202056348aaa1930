import TunnelSoak.Launch
import TunnelSoak.Proofs.History

/-! The lines of a run's output and what they tell: the word with which the last line
begins, and the samples that the lines before it show. -/
namespace TunnelSoak

open History

inductive Headline where
  | pass
  | fail
  | error
  | skip
  deriving DecidableEq, Repr

namespace Headline

def text : Headline → String
  | pass => "✓ PASS:"
  | fail => "✗ FAIL:"
  | error => "✗ ERROR:"
  | skip => "⚠ SKIP:"

def style : Headline → Style
  | pass => .green
  | fail => .red
  | error => .red
  | skip => .yellow

def painted (headline : Headline) (coloured : Bool) : String :=
  headline.style.paint coloured headline.text

def Heads (headline : Headline) (coloured : Bool) (line : String) : Prop :=
  ∃ rest, line = headline.painted coloured ++ rest

theorem eq_of_begins {coloured : Bool} {a b : Headline}
    (h : (a.painted coloured).toList <+: (b.painted coloured).toList) : a = b := by
  revert h
  cases coloured <;> cases a <;> cases b <;> decide

theorem Heads.unique {coloured : Bool} {line : String} {a b : Headline}
    (ha : a.Heads coloured line) (hb : b.Heads coloured line) : a = b := by
  obtain ⟨rest, rfl⟩ := ha
  obtain ⟨other, same⟩ := hb
  have lists := congrArg String.toList same
  rw [String.toList_append, String.toList_append] at lists
  rcases List.prefix_or_prefix_of_prefix (List.prefix_append _ rest.toList)
    (lists ▸ List.prefix_append _ other.toList) with h | h
  · exact eq_of_begins h
  · exact (eq_of_begins h).symm

end Headline

structure Status where
  time : Nat
  tunnels : Nat
  reading : MemoryReading

def Entry.status? (entry : Entry) : Option Status :=
  match entry.event with
  | .sampled _ tunnels reading => some ⟨entry.time, tunnels, reading⟩
  | _ => none

/-- The samples that the observer was shown, with the time. -/
def History.statuses (h : History) : List Status := (h.filterMap Entry.status?).reverse

theorem History.observations_eq_statuses (h : History) :
    (observations h).map (·.2) =
      (statuses h).map fun status => (status.tunnels, status.reading) := by
  unfold observations statuses
  rw [List.map_reverse, List.map_reverse, List.map_filterMap, List.map_filterMap]
  refine congrArg (fun read => (h.filterMap read).reverse) (funext fun e => ?_)
  rcases e with ⟨time, event⟩
  cases event <;> rfl

namespace Console

/-- Lines that show these samples in order, among them lines of the log. -/
inductive Shows (c : Console) (mode : Mode) : List Status → List String → Prop
  | nil : Shows c mode [] []
  | log {entry : Entry} {line : String} {statuses : List Status} {lines : List String}
    (logged : c.logLine? mode entry = some line) (rest : Shows c mode statuses lines) :
    Shows c mode statuses (line :: lines)
  | status {status : Status} {statuses : List Status} {lines : List String}
    (rest : Shows c mode statuses lines) :
    Shows c mode (status :: statuses)
      (("[" ++ (c.clock status.time).clock ++ "] Tunnels established: " ++
        Style.bold.paint c.coloured (toString status.tunnels) ++ ", sys memory: " ++
        ByteCount.text status.reading.system ++ ", cumulative allocations: " ++
        ByteCount.text status.reading.cumulative) :: lines)

variable {c : Console} {mode : Mode}

theorem Shows.eq_of_silent {statuses : List Status} {lines : List String}
    (shown : c.Shows mode statuses lines) (silent : c.log = none) :
    lines = statuses.map fun status =>
      c.statusLine status.time status.tunnels status.reading := by
  induction shown with
  | nil => rfl
  | log logged => simp [logLine?, silent] at logged
  | status _ ih => rw [ih, List.map_cons, statusLine]

theorem status?_eq (c : Console) (entry : Entry) :
    c.status? entry = entry.status?.map fun status =>
      c.statusLine status.time status.tunnels status.reading := by
  rcases entry with ⟨time, event⟩
  cases event <;> rfl

theorem shows_entries (c : Console) (mode : Mode) (entries : List Entry) :
    c.Shows mode (entries.filterMap Entry.status?) (entries.flatMap (c.entryLines mode)) := by
  induction entries with
  | nil => exact .nil
  | cons entry entries ih =>
    have reported : c.Shows mode ((entry :: entries).filterMap Entry.status?)
        ((c.status? entry).toList ++ entries.flatMap (c.entryLines mode)) := by
      rw [status?_eq, List.filterMap_cons]
      cases entry.status? with
      | none => exact ih
      | some status => exact .status ih
    rw [List.flatMap_cons, entryLines, List.append_assoc]
    cases logged : c.logLine? mode entry with
    | none => exact reported
    | some line => exact .log logged reported

theorem shows_soakLines (c : Console) (s : Soak) :
    c.Shows s.rig.dispatcher.mode (statuses s.rig.trace) (c.soakLines s) := by
  have reported := c.shows_entries s.rig.dispatcher.mode s.rig.trace.reverse
  rwa [List.filterMap_reverse] at reported

end Console

end TunnelSoak
