import TunnelSoak.Proofs.Dispatcher
import TunnelSoak.Simulation.Script
import TunnelSoak.Soak

/-! The pace of a run with the simulated controller, in milliseconds. A tunnel comes up
once in every period, so the counts at the samples, and with them the end of the run,
are known beforehand. -/
namespace TunnelSoak

structure Pace where
  establishMs : Nat
  settleMs : Nat
  intervalMs : Nat
  durationMs : Nat

namespace Pace
variable (p : Pace)

def periodMs : Nat := p.establishMs + p.settleMs

def establishedBy (t : Nat) : Nat :=
  if t < p.establishMs then 0 else 1 + (t - p.establishMs) / p.periodMs

/-- Establishments up to a sample, the first of which is number one. -/
def countAt (sample : Nat) : Nat :=
  if sample = 0 then 0 else p.establishedBy (sample * p.intervalMs)

def samples : Nat := p.durationMs / p.intervalMs

def requests : Nat := p.durationMs / p.periodMs

/-- No two of the things that happen by themselves happen at the same time, except that a
sample may fall on the end of a settle delay. -/
structure Untied : Prop where
  period : 0 < p.periodMs
  duration_sample : ¬ p.intervalMs ∣ p.durationMs
  duration_establishment : ∀ k, p.durationMs ≠ p.establishMs + k * p.periodMs
  duration_request : ∀ k, p.durationMs ≠ (k + 1) * p.periodMs
  sample_establishment : ∀ sample k, 1 ≤ sample → sample * p.intervalMs < p.durationMs →
    sample * p.intervalMs ≠ p.establishMs + k * p.periodMs

variable {p} {k t : Nat}

theorem next_period (p : Pace) (k : Nat) :
    (k + 1) * p.periodMs = k * p.periodMs + p.establishMs + p.settleMs := by
  rw [Nat.succ_mul, Nat.add_assoc]
  rfl

theorem establishedBy_of_settling (low : p.establishMs + k * p.periodMs ≤ t)
    (high : t < p.establishMs + (k + 1) * p.periodMs) : p.establishedBy t = k + 1 := by
  have quotient : (t - p.establishMs) / p.periodMs = k := by
    apply Nat.div_eq_of_lt_le <;> omega
  rw [establishedBy, if_neg (by omega), quotient, Nat.add_comm]

theorem establishedBy_of_waiting (low : k * p.periodMs ≤ t)
    (high : t < p.establishMs + k * p.periodMs) : p.establishedBy t = k := by
  cases k with
  | zero => exact if_pos (by omega)
  | succ k =>
    refine establishedBy_of_settling ?_ high
    rw [next_period] at low
    omega

theorem establishedBy_mono {t u : Nat} (h : t ≤ u) : p.establishedBy t ≤ p.establishedBy u := by
  unfold establishedBy
  split
  · exact Nat.zero_le _
  · rw [if_neg (by omega)]
    exact Nat.add_le_add_left (Nat.div_le_div_right (by omega)) 1

theorem countAt_le_succ (sample : Nat) : p.countAt sample ≤ p.countAt (sample + 1) := by
  unfold countAt
  split
  · exact Nat.zero_le _
  · rw [if_neg (Nat.succ_ne_zero sample)]
    exact establishedBy_mono (Nat.mul_le_mul_right _ (Nat.le_succ sample))

end Pace

namespace Simulation

def pace (sim : Simulation) (setup : Setup) : Pace where
  establishMs := sim.establishMs
  settleMs := setup.config.settleDelayMs
  intervalMs := setup.intervalMs
  durationMs := setup.config.durationSecs * 1000

variable (sim : Simulation) (setup : Setup)

def isFaulty (sample : Nat) : Bool :=
  decide (setup.config.maxSysMemory < (setup.readings (sample - 1)).system) ||
    decide ((sim.pace setup).countAt sample = (sim.pace setup).countAt (sample - 1))

def firstFaulty? : Option Nat :=
  (List.range' 1 (sim.pace setup).samples).find? (sim.isFaulty setup)

/-- How a run fails at a sample. -/
def failureAt (sample : Nat) : Failure :=
  let system := (setup.readings (sample - 1)).system
  let count := (sim.pace setup).countAt sample
  if setup.config.maxSysMemory < system then .ceilingExceeded system setup.config.maxSysMemory
  else .stalled count count

def requestsOf (request : Request) (n : Nat) : Nat :=
  (List.range n).countP fun i => setup.config.mode.request setup.coin i == request

theorem requestsOf_succ (request : Request) (n : Nat) :
    requestsOf setup request (n + 1) = requestsOf setup request n +
      if setup.config.mode.request setup.coin n = request then 1 else 0 := by
  unfold requestsOf
  rw [List.range_succ, List.countP_append, List.countP_singleton]
  simp only [beq_iff_eq]

theorem requestsOf_add (n : Nat) :
    requestsOf setup .reconnect n + requestsOf setup .restart n = n := by
  induction n with
  | zero => rfl
  | succ n ih =>
    rw [requestsOf_succ, requestsOf_succ]
    cases setup.config.mode.request setup.coin n <;> simp <;> omega

def report : Report where
  mode := setup.config.mode
  tunnelsEstablished := (sim.pace setup).establishedBy (sim.pace setup).durationMs
  reconnects := requestsOf setup .reconnect (sim.pace setup).requests
  restarts := requestsOf setup .restart (sim.pace setup).requests
  samples := (sim.pace setup).samples
  peakSystemMemory :=
    (List.range (sim.pace setup).samples).foldl (fun peak i => max peak (setup.readings i).system) 0
  lastCumulativeAllocated :=
    if (sim.pace setup).samples = 0 then 0
    else (setup.readings ((sim.pace setup).samples - 1)).cumulative
  elapsedMs := max (sim.pace setup).durationMs
    ((sim.pace setup).establishedBy (sim.pace setup).durationMs * (sim.pace setup).periodMs)

def outcome : Except Failure Report :=
  match sim.firstFaulty? setup with
  | some sample => .error (sim.failureAt setup sample)
  | none => .ok (sim.report setup)

def probes : Nat := (sim.firstFaulty? setup).getD (sim.pace setup).samples

variable {sim setup} {sample : Nat}

theorem outcome_of_faulty (first : ∀ i, 1 ≤ i → i < sample → sim.isFaulty setup i = false)
    (faulty : sim.isFaulty setup sample = true) (low : 1 ≤ sample)
    (high : sample ≤ (sim.pace setup).samples) :
    sim.outcome setup = .error (sim.failureAt setup sample) ∧ sim.probes setup = sample := by
  have found : sim.firstFaulty? setup = some sample := by
    refine List.find?_range'_eq_some.mpr ⟨faulty, ?_, ?_⟩
    · rw [List.mem_range'_1]
      omega
    · intro i hi less
      rw [first i hi less]
      rfl
  unfold outcome probes
  rw [found]
  exact ⟨rfl, rfl⟩

theorem outcome_of_sane
    (sane : ∀ i, 1 ≤ i → i ≤ (sim.pace setup).samples → sim.isFaulty setup i = false) :
    sim.outcome setup = .ok (sim.report setup) ∧ sim.probes setup = (sim.pace setup).samples := by
  have found : sim.firstFaulty? setup = none := by
    apply List.find?_range'_eq_none.mpr
    intro i low high
    rw [sane i low (by omega)]
    rfl
  unfold outcome probes
  rw [found]
  exact ⟨rfl, rfl⟩

end Simulation

end TunnelSoak
