import Allotment.Proofs.Endings
import Allotment.Proofs.Weather
/-!
# Company

One reconciliation among others who do as they like.  Before every call anything may have
been done to the stores (`Company.deed`), and on its way the call meets whatever weather
there is.  What such a call finds is the stores as the others left them
(`Task.advance_company`), so what holds of one call by itself holds of every call in
company.
-/
namespace Allotment

/-- What the others do to the stores before the call with a number, and the weather. -/
structure Company extends Weather where
  deed : Nat → Stores → Stores

namespace Company

def nobody (raised : Bool) : Company := ⟨⟨fun _ => none, fun _ => raised⟩, fun _ st => st⟩

def meets (c : Company) (v : Voyage) : Voyage := { v with stores := c.deed v.answers v.stores }

def surroundings (c : Company) : Surroundings Voyage where
  list v := c.toWeather.surroundings.list (c.meets v)
  getDocument v := c.toWeather.surroundings.getDocument (c.meets v)
  createDocument v := c.toWeather.surroundings.createDocument (c.meets v)
  get v := c.toWeather.surroundings.get (c.meets v)
  update v := c.toWeather.surroundings.update (c.meets v)
  signal v := c.toWeather.surroundings.signal (c.meets v)
  sleep v := c.toWeather.surroundings.sleep (c.meets v)

end Company

namespace Task

variable (t : Task) (c : Company) (v : Voyage)

/-- **An answer in company is the answer of the stores as the others left them.** -/
theorem advance_company {s : Stage} (h : s.result? = none) :
    let met := c.deed v.answers v.stores
    let now := Stores.troubled (c.fault? v.answers) (c.raised v.answers)
    (t.advance c.surroundings v s).1 = (t.advance now met s).1 ∧
      (t.advance c.surroundings v s).2.stores = (t.advance now met s).2 := by
  intro met now
  have hmet : t.advance c.surroundings v s = t.advance c.toWeather.surroundings (c.meets v) s := by
    cases s with
    | finished result => cases h
    | _ => rfl
  rw [hmet]
  exact t.advance_surroundings c.toWeather (c.meets v) h

/-- **What every deed and every call keep up holds in the end.** -/
theorem company_keeps {P : Stage → Stores → Prop} (hdeed : ∀ n s st, P s st → P s (c.deed n st))
    (hcall : ∀ s st fault? raised, s.result? = none → P s st →
      P (t.advance (Stores.troubled fault? raised) st s).1.stage
        (t.advance (Stores.troubled fault? raised) st s).2)
    {st : Stores} (h : P t.start.stage st) :
    P (.finished (t.reconcile c.surroundings (.start st)).1)
      (t.reconcile c.surroundings (.start st)).2.2.stores := by
  refine t.ending_keeps c.surroundings (P := fun s v => P s v.stores) ?_ t.start.stage (.start st) h
  intro s v hs hP
  obtain ⟨hstage, hstores⟩ := t.advance_company c v hs
  rw [hstage, hstores]
  exact hcall s _ _ _ hs (hdeed _ s _ hP)

end Task
end Allotment
