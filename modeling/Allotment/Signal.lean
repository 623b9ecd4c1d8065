/-!
# The signal to stop

A flag that somebody holds and others watch, and the sleep of one who obeys it.  Whoever
watches a flag is told that it was set since he last took note of it, even if it was set to
what it was, and is told when nobody holds it any more.

A sleep waits for its time and for news of the flag.  News that the flag is raised cuts it
short; any other news is noted, and the sleep goes on to the time it began with.
-/
namespace Allotment

/-- A signal to stop. -/
structure Flag where
  raised : Bool
  /-- How often it was set. -/
  turns : Nat
  /-- Whether there is anybody who can still set it. -/
  held : Bool
deriving DecidableEq, Repr

namespace Flag

def new (raised : Bool) : Flag := ⟨raised, 0, true⟩

/-- Sets the flag, or with no value lets it go for good. -/
def told (f : Flag) (value : Option Bool) : Flag :=
  if f.held then
    match value with
    | some raised => { f with raised, turns := f.turns + 1 }
    | none => { f with held := false }
  else f

end Flag

/-- How far a sleep has come, and how many settings of the flag its sleeper has taken note of. -/
inductive Sleep where
  | listening (seen : Nat)
  /-- Nobody holds the flag any more, so there is only the time to wait for. -/
  | deaf (seen : Nat)
  | ended (cut : Bool) (seen : Nat)
deriving DecidableEq, Repr

namespace Sleep

def seen : Sleep → Nat
  | listening seen | deaf seen | ended _ seen => seen

/-- Whether the sleep was cut short, once it is over. -/
def cut? : Sleep → Option Bool
  | ended cut _ => some cut
  | _ => none

/-- One look at the time and at the flag.  `due` says whether the time is over, `timeFirst` which of the
two is asked first. -/
def look (due timeFirst : Bool) (flag : Flag) : Sleep → Sleep
  | listening seen =>
    if due && timeFirst then ended false seen
    else if seen ≠ flag.turns then
      if flag.raised then ended true flag.turns else listening flag.turns
    else if due then ended false seen
    else if flag.held then listening seen
    else deaf seen
  | deaf seen => if due then ended false seen else deaf seen
  | ended cut seen => ended cut seen

/-- Looks for as long as there is something to take note of: after the first look there is nothing new. -/
def settle (due timeFirst : Bool) (flag : Flag) (s : Sleep) : Sleep :=
  (s.look due timeFirst flag).look due timeFirst flag

theorem look_settle (due timeFirst : Bool) (flag : Flag) (s : Sleep) :
    (s.settle due timeFirst flag).look due timeFirst flag = s.settle due timeFirst flag := by
  cases s <;> simp only [settle, look] <;> grind [look]

end Sleep

end Allotment
