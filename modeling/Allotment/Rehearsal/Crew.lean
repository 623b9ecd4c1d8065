import Allotment.Rehearsal.Agenda
/-!
# Crews

Those who are at work beside the step of a rehearsal: its agenda, and the reconciliations
that were sent off.  Whoever can go on stands in line and goes on in turn for as long as
it can; who lets others go first joins the line again at its end.  Who has to wait
rests, and joins the line as soon as there is nothing more to wait for.
-/
namespace Allotment.Rehearsal

open Allotment

/-- One of a crew. -/
inductive Hand where
  | agenda (g : Agenda)
  /-- A reconciliation that was sent off and has not begun. -/
  | fresh (ticket : Nat) (s : Service)
  | flying (ticket : Nat) (p : Process)

namespace Hand

/-- Lets a reconciliation go on for as long as it can; what it came to is left under its ticket. -/
def fly (ticket : Nat) (p : Process) (w : World) : Rest × Hand × World :=
  let (rest, p, w) := p.resume w
  match rest, p.result? with
  | .stuck, _ => (rest, flying ticket p, w.deposit ticket none)
  | _, some r => (rest, flying ticket p, w.deposit ticket (some r))
  | _, none => (rest, flying ticket p, w)

/-- One turn. -/
def resume (w : World) : Hand → Rest × Hand × World
  | agenda g =>
    let (rest, g, w) := g.resume w
    (rest, agenda g, w)
  | fresh ticket s =>
    let (p, w) := Process.start w s .shared
    fly ticket p w
  | flying ticket p => fly ticket p w

/-- Whether there is nothing to wait for. -/
def canGoOn (w : World) : Hand → Bool
  | agenda g => g.canGoOn w
  | fresh .. => true
  | flying _ p => p.canGoOn w

/-- Until when there is something to wait for. -/
def deadline? : Hand → Option Nat
  | agenda g => g.deadline?
  | fresh .. => none
  | flying _ p => p.deadline?

def isAgenda : Hand → Bool
  | agenda _ => true
  | _ => false

end Hand

/-- Those at work beside a step. -/
structure Crew where
  /-- Those who can go on, in the order of their turns. -/
  line : List Hand
  /-- Those who wait, in the order in which they began to. -/
  resting : List Hand

namespace Crew

def empty : Crew := ⟨[], []⟩

def size (c : Crew) : Nat := c.line.length + c.resting.length

/-- One more at the end of the line. -/
def join (c : Crew) (h : Hand) : Crew := { c with line := c.line ++ [h] }

/-- The crew without an agenda. -/
def dismiss (c : Crew) : Crew :=
  ⟨c.line.filter fun h => !h.isAgenda, c.resting.filter fun h => !h.isAgenda⟩

/-- Those who have nothing more to wait for join the line. -/
def rouse (c : Crew) (w : World) : Crew :=
  let (up, resting) := c.resting.partition fun h => h.canGoOn w
  ⟨c.line ++ up, resting⟩

/-- First those join the line who have nothing more to wait for, then those who were sent off. -/
def gather (c : Crew) (w : World) : Crew × World :=
  let c := c.rouse w
  ({ c with line := c.line ++ w.departures.map fun (ticket, s) => .fresh ticket s },
    { w with departures := [] })

/-- The first in line has its turn, which may let others go on; then it joins them, rests or is done. -/
def turn (c : Crew) (w : World) : Crew × World :=
  match c.line with
  | [] => (c, w)
  | h :: line =>
    let (rest, h, w) := h.resume w
    let (c, w) := gather { c with line } w
    match rest with
    | .yielding => (c.join h, w)
    | .waiting => ({ c with resting := c.resting ++ [h] }, w)
    | .ended | .stuck => (c, w)

/-- So many turns, or as many as there are before the line is empty. -/
def turns : Nat → Crew → World → Crew × World
  | 0, c, w => (c, w)
  | n + 1, c, w =>
    if c.line.isEmpty then (c, w)
    else
      let (c, w) := c.turn w
      turns n c w

/-- The times for which those who rest wait. -/
def deadlines (c : Crew) : List Nat := c.resting.filterMap Hand.deadline?

end Crew

end Allotment.Rehearsal
