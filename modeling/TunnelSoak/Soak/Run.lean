import TunnelSoak.Soak.Step

/-! One way to carry out a run: whoever acts goes on until it has to wait, and of the
things that are ready for the loop the first in a fixed order is serviced. The `fuel`
bounds the moves; none means that it ran out, or that the run waits for ever. -/
namespace TunnelSoak.Soak

inductive Turn where
  | loop
  | controllers
  deriving DecidableEq, Repr

def loopMoves : List Move := .join :: loopServices

def controllerMoves (s : Soak) : List Move := s.rig.tasks.map fun t => .act t.id true

def agenda (s : Soak) (turn : Turn) : List (Turn × Move) :=
  let loop := loopMoves.map fun move => (Turn.loop, move)
  let controllers := s.controllerMoves.map fun move => (Turn.controllers, move)
  let active :=
    match turn with
    | .loop => loop ++ controllers
    | .controllers => controllers ++ loop
  active ++ [(.loop, .elapse)]

def proceed (setup : Setup) (turn : Turn) (s : Soak) : Option (Turn × Soak) :=
  (s.agenda turn).findSome? fun (turn, move) => (s.step setup move).map fun s => (turn, s)

def isOver (s : Soak) : Bool :=
  match s.stage with
  | .over _ => true
  | .panicked _ => true
  | _ => false

def runFrom (setup : Setup) : (fuel : Nat) → Turn → Soak → Option Soak
  | 0, _, _ => none
  | fuel + 1, turn, s =>
    if s.isOver then some s
    else
      match s.proceed setup turn with
      | some (turn, next) => runFrom setup fuel turn next
      | none => none

def run (setup : Setup) (fuel : Nat) : Option Soak := runFrom setup fuel .loop (begin setup)

end TunnelSoak.Soak
