import Allotment.Proofs.Calls
import Allotment.Proofs.Verdict
import Allotment.Proofs.Vigil
/-!
# Cancellation

The signal to stop is obeyed, and nothing else is taken for it.  An attempt and a sleep
begin only after a look that found the signal down (`Watchful`).  A signal that is raised
in a sleep and stays up ends the reconciliation, even if the sleep is taken to have had its
time: the next attempt begins with a look as well (`Overtaken`).  A signal that nobody
raises makes no difference, whatever else is done to it (`Abreast`).
-/
namespace Allotment

/-- Whether the stage is entered only by a look that finds the signal down. -/
def Stage.isCleared : Stage → Bool
  | .rereading .. | .sleeping .. => true
  | _ => false

/-- Whether nobody ever raises the signal.  It may be set to what it is, and let go. -/
structure History.Quiet (h : History) : Prop where
  during : ∀ n, some true ∉ (h.during n).told
  glances : ∀ n, ∀ g ∈ h.glances n, some true ∉ g.lapse.told

/-- The same stores under a signal that never changes. -/
def Surroundings.calm {σ : Type} (env : Surroundings σ) : Surroundings σ :=
  { env with signal := fun w => (false, w), sleep := fun w _ => (false, w) }

namespace Task

variable {σ : Type}

/-! ## Where the signal is looked at -/

theorem isCleared_choose (t : Task) (claims : Claims) (d : PoolDocument) :
    (t.choose claims d).stage.isCleared = false := by
  rw [t.stage_choose]
  split <;> rfl

theorem looked_of_cleared (t : Task) (env : Surroundings σ) (w : σ) {s : Stage} (hs : s.result? = none)
    (h : (t.advance env w s).1.stage.isCleared = true) :
    (env.signal w).1 = false ∧ (t.advance env w s).2 = (env.signal w).2 := by
  cases s with
  | listing =>
    simp only [advance, afterList, after] at h
    split at h <;> cases h
  | readingDocument claims =>
    simp only [advance, afterDocument] at h
    split at h
    · rw [t.isCleared_choose] at h
      cases h
    · split at h <;> cases h
  | creatingDocument claims =>
    simp only [advance, afterCreation] at h
    split at h
    · rw [t.isCleared_choose] at h
      cases h
    · cases h
  | checking a left =>
    simp only [advance, afterCheck] at h
    cases hsignal : (env.signal w).1 with
    | true => rw [hsignal] at h; cases h
    | false => exact ⟨rfl, rfl⟩
  | rereading a left =>
    simp only [advance, afterReread] at h
    split at h
    · cases h
    · split at h <;> cases h
  | writing a left draft =>
    simp only [advance, afterWrite] at h
    split at h
    · cases h
    · split at h
      · cases left <;> cases h
      · cases h
  | pausing a left =>
    simp only [advance, afterPause] at h
    cases hsignal : (env.signal w).1 with
    | true => rw [hsignal] at h; cases h
    | false => exact ⟨rfl, rfl⟩
  | sleeping a left =>
    simp only [advance, afterSleep] at h
    split at h <;> cases h
  | finished result => cases hs

variable {t : Task} {env : Surroundings σ} {h : History}

theorem vigil_advance (t : Task) (env : Surroundings σ) (h : History) (v : Vigil σ) (s : Stage) :
    let v' := (t.advance (h.surroundings env) v s).2
    v' = v ∨ (∃ st, v' = v.called h st) ∨ ∃ deadline gs, v' = (v.rest deadline gs (.listening v.seen)).2 := by
  cases s with
  | checking a left | pausing a left | finished result => exact .inl rfl
  | sleeping a left => exact .inr (.inr ⟨_, _, rfl⟩)
  | _ => exact .inr (.inl ⟨_, rfl⟩)

/-! ## Attempts begin with the signal down -/

/-- Where attempts and sleeps begin, the signal is down; and nothing is taken note of before it happens. -/
structure Watchful (s : Stage) (v : Vigil σ) : Prop where
  noted : v.seen ≤ v.flag.turns
  lowered : s.isCleared = true → v.flag.raised = false

theorem watchful_advance (v : Vigil σ) {s : Stage} (hs : s.result? = none) (hv : Watchful s v) :
    Watchful (t.advance (h.surroundings env) v s).1.stage (t.advance (h.surroundings env) v s).2 := by
  refine ⟨?_, fun hcleared => ?_⟩
  · rcases t.vigil_advance env h v s with hsame | ⟨st, hcalled⟩ | ⟨deadline, gs, hrest⟩
    · rw [hsame]
      exact hv.noted
    · rw [hcalled]
      exact Nat.le_trans hv.noted (v.flag.turns_through _).1
    · rw [hrest]
      exact Vigil.noted_rest deadline gs hv.noted
  · obtain ⟨hdown, hsame⟩ := t.looked_of_cleared (h.surroundings env) v hs hcleared
    rw [hsame]
    exact hdown

theorem watchful_of_passes {v u : Vigil σ} (hseen : v.seen ≤ v.flag.turns) {trace : Trace} {s : Stage}
    (hpasses : t.Passes (h.surroundings env) t.start.stage v trace s u) : Watchful s u := by
  refine hpasses.keeps (P := fun _ s v => Watchful s v) (fun _ s v hs hv => watchful_advance v hs hv) ?_
  refine ⟨hseen, fun hcleared => ?_⟩
  rcases t.stage_start with ⟨hstart, -⟩ | ⟨address, -, hstart⟩
  · rw [hstart] at hcleared
    cases hcleared
  · rw [hstart] at hcleared
    cases hcleared

/-! ## A signal that is raised in a sleep -/

/-- The way of a reconciliation whose sleep saw the signal raised: it finds that out in the sleep or in the
look that follows, and makes no call before. -/
inductive Overtaken (t : Task) (a : Address) (left : Nat) (u : Vigil σ) : Stage → Vigil σ → Prop where
  | asleep : Overtaken t a left u (.sleeping a left) u
  | late {v : Vigil σ} : v.flag.raised = true → v.stores = u.stores → Overtaken t a left u (.checking a left) v
  | cancelled {v : Vigil σ} : v.stores = u.stores →
      Overtaken t a left u (.finished (.error (.cancelled t.service.key.text))) v

theorem overtaken_advance {a : Address} {left : Nat} {u : Vigil σ}
    (hup : ((h.surroundings env).sleep u (t.retry left)).2.flag.raised = true)
    {s : Stage} {v : Vigil σ} (hs : s.result? = none) (hv : t.Overtaken a left u s v) :
    t.Overtaken a left u (t.advance (h.surroundings env) v s).1.stage
      (t.advance (h.surroundings env) v s).2 := by
  cases hv with
  | asleep =>
    have hstores : ((h.surroundings env).sleep u (t.retry left)).2.stores = u.stores := Vigil.stores_rest ..
    simp only [advance, afterSleep]
    cases hcut : ((h.surroundings env).sleep u (t.retry left)).1 with
    | true => exact .cancelled hstores
    | false => exact .late hup hstores
  | late hraised hstores =>
    have hlook : t.afterCheck a left v.flag.raised = t.cancel := by rw [hraised]; rfl
    show t.Overtaken a left u (t.afterCheck a left v.flag.raised).stage v
    rw [hlook]
    exact .cancelled hstores
  | cancelled hstores => cases hs

theorem Overtaken.of_finished {a : Address} {left : Nat} {u v : Vigil σ} {result : Except Failure Outcome}
    (hv : t.Overtaken a left u (.finished result) v) :
    result = .error (.cancelled t.service.key.text) ∧ v.stores = u.stores := by
  cases hv with
  | cancelled hstores => exact ⟨rfl, hstores⟩

/-! ## A signal that nobody raises -/

/-- Whether a reconciliation under a signal has come as far as one under none. -/
structure Abreast (v : Vigil σ) (w : σ) : Prop where
  stores : v.stores = w
  lowered : v.flag.raised = false

theorem Abreast.called (hquiet : h.Quiet) {v : Vigil σ} {w : σ} (hv : Abreast v w) (st : σ) :
    Abreast (v.called h st) st :=
  ⟨rfl, Flag.raised_through hv.lowered _ (hquiet.during _)⟩

theorem Abreast.sleep (hquiet : h.Quiet) {v : Vigil σ} {w : σ} (hv : Abreast v w) (env : Surroundings σ)
    (n : Nat) :
    ((h.surroundings env).sleep v n).1 = false ∧ Abreast ((h.surroundings env).sleep v n).2 w := by
  have hquiet := hquiet.glances v.calls
  obtain ⟨huncut, hlowered⟩ : ((h.surroundings env).sleep v n).1 = false ∧
      ((h.surroundings env).sleep v n).2.flag.raised = false :=
    Vigil.rest_of_quiet (h.glances v.calls) rfl hv.lowered hquiet
  exact ⟨huncut, (Vigil.stores_rest ..).trans hv.stores, hlowered⟩

theorem abreast_advance (hquiet : h.Quiet) (t : Task) (env : Surroundings σ) {s : Stage} {v : Vigil σ} {w : σ}
    (hv : Abreast v w) :
    (t.advance (h.surroundings env) v s).1 = (t.advance env.calm w s).1 ∧
      Abreast (t.advance (h.surroundings env) v s).2 (t.advance env.calm w s).2 := by
  obtain rfl := hv.stores
  cases s with
  | checking a left | pausing a left =>
    refine ⟨?_, hv⟩
    simp only [advance, History.surroundings, Surroundings.calm, hv.lowered]
  | sleeping a left =>
    obtain ⟨huncut, hafter⟩ := hv.sleep hquiet env (t.retry left)
    refine ⟨?_, hafter⟩
    simp only [advance, huncut]
    rfl
  | finished result => exact ⟨rfl, hv⟩
  | _ => exact ⟨rfl, hv.called hquiet _⟩

/-- **The signal is obeyed, and nothing else is taken for it**, whatever the stores answer and whatever is
done to the signal.  No attempt begins while the signal is raised.  If it is found raised in a sleep, the
reconciliation is cancelled without another read or write of the service, even if the sleep is over at
that moment and counts as one that took its time.  If nobody raises it, the reconciliation ends as under
a signal that never changes, and every sleep takes its full time, to the moment if no look comes late. -/
theorem reconcile_obeys_signal (t : Task) (env : Surroundings σ) (h : History) {v : Vigil σ}
    (hseen : v.seen ≤ v.flag.turns) :
    let vigil := h.surroundings env
    let run := t.reconcile vigil v
    (∀ trace a left u, t.Passes vigil t.start.stage v trace (.rereading a left) u → u.flag.raised = false) ∧
    (∀ trace a left u, t.Passes vigil t.start.stage v trace (.sleeping a left) u →
      u.Alarmed (u.now + h.delay (t.retry left)) (h.glances u.calls) →
      run.1 = .error (.cancelled t.service.key.text) ∧ run.2.2.stores = u.stores ∧
        ∀ trace' s u', t.Passes vigil (.sleeping a left) u trace' s u' →
          (∀ b k, s ≠ .rereading b k) ∧ ∀ b k draft, s ≠ .writing b k draft) ∧
    (h.Quiet → v.flag.raised = false →
      let calm := t.reconcile env.calm v.stores
      (run.1 = calm.1 ∧ run.2.1 = calm.2.1 ∧ run.2.2.stores = calm.2.2) ∧
      ∀ trace a left u, t.Passes vigil t.start.stage v trace (.sleeping a left) u →
        let slept := vigil.sleep u (t.retry left)
        let deadline := u.now + h.delay (t.retry left)
        slept.1 = false ∧ deadline ≤ slept.2.now ∧
          (u.now + ((h.glances u.calls).map fun g => g.lapse.time).sum ≤ deadline →
            slept.2.now = deadline)) := by
  intro vigil run
  refine ⟨?_, ?_, ?_⟩
  · intro trace a left u hpasses
    exact (watchful_of_passes hseen hpasses).lowered rfl
  · intro trace a left u hpasses halarm
    have hwatchful := watchful_of_passes hseen hpasses
    have hup : (vigil.sleep u (t.retry left)).2.flag.raised = true :=
      halarm.raised_rest hwatchful.noted (hwatchful.lowered rfl)
    -- from the sleep on there is only its end and the look that follows, with no time between them
    have hovertaken : ∀ {trace' s u'}, t.Passes vigil (.sleeping a left) u trace' s u' →
        t.Overtaken a left u s u' := fun hgoes =>
      hgoes.keeps (P := fun _ s v => t.Overtaken a left u s v)
        (fun _ _ _ hs hv => overtaken_advance hup hs hv) .asleep
    have hrun := run_of_passes hpasses
    have hends := hovertaken (t.passes_run vigil u (.sleeping a left))
    obtain ⟨hresult, hstores⟩ := hends.of_finished
    refine ⟨?_, ?_, fun trace' s u' hgoes => ?_⟩
    · show (t.run vigil v t.start.stage).1 = _
      rw [hrun, hresult]
    · show (t.run vigil v t.start.stage).2.2.stores = _
      rw [hrun, hstores]
    · cases hovertaken hgoes <;> exact ⟨nofun, nofun⟩
  · intro hquiet hlowered calm
    have hadvance : ∀ s (v : Vigil σ) w, s.result? = none → Abreast v w →
        (t.advance vigil v s).1 = (t.advance env.calm w s).1 ∧
          Abreast (t.advance vigil v s).2 (t.advance env.calm w s).2 :=
      fun s v w _ hv => abreast_advance hquiet t env hv
    obtain ⟨hresult, htrace, hends⟩ := t.run_of_related (R := fun _ => Abreast) hadvance
      t.start.stage v v.stores ⟨rfl, hlowered⟩
    refine ⟨⟨hresult, ?_, hends.stores⟩, fun trace a left u hpasses => ?_⟩
    · show t.start.trace ++ _ = t.start.trace ++ _
      rw [htrace]
    · have hdown := (watchful_of_passes hseen hpasses).lowered rfl
      have habreast : Abreast u u.stores := ⟨rfl, hdown⟩
      have huncut := (habreast.sleep hquiet env (t.retry left)).1
      exact ⟨huncut, Vigil.now_rest (h.glances u.calls) rfl huncut⟩

/-- A signal that is raised the moment a sleep is over, which looks at the time first. -/
theorem reconcile_obeys_signal_at_last_moment :
    let web : Service := ⟨"default", "web", "", ∅, none, 1, ⟨[]⟩⟩
    let pools : PoolDocument := PoolDocument.empty.insert "cidr-default" "10.0.0.0/29"
    let env : Surroundings Unit :=
      { list := fun _ _ _ => (.ok [], ())
        getDocument := fun _ _ => (.ok pools, ())
        createDocument := fun _ _ => (.ok pools, ())
        get := fun _ _ => (.ok web, ())
        update := fun _ s => (.error (.versionConflict s.key.text 1 2), ())
        signal := fun _ => (false, ())
        sleep := fun _ _ => (false, ()) }
    let h : History := ⟨fun _ => ⟨1, []⟩, fun _ => [⟨⟨100, [some true]⟩, true⟩], fun _ => 100⟩
    let v : Vigil Unit := ⟨(), 0, .new false, 0, 0⟩
    let t : Task := ⟨Settings.standard, web⟩
    v.seen ≤ v.flag.turns ∧
    (∃ trace a left u, t.Passes (h.surroundings env) t.start.stage v trace (.sleeping a left) u ∧
      u.Alarmed (u.now + h.delay (t.retry left)) (h.glances u.calls) ∧
      ((h.surroundings env).sleep u (t.retry left)).1 = false) ∧
    (t.reconcile (h.surroundings env) v).1 = .error (.cancelled web.key.text) := by
  intro web pools env h v t
  have hallotted : pools.allot web.ns (.ofServices []) = .ok (.v4 0x0a000001#32) := by decide +kernel
  have hchosen : (t.choose (.ofServices []) pools).stage = .checking (.v4 0x0a000001#32) (t.limit - 1) := by
    rw [t.stage_choose, show t.service.ns = web.ns from rfl, hallotted]
  have hlisted : t.Passes (h.surroundings env) t.start.stage v _ (.readingDocument (.ofServices [])) _ :=
    .next .here rfl
  have hread : t.Passes (h.surroundings env) t.start.stage v _ (t.choose (.ofServices []) pools).stage _ :=
    .next hlisted rfl
  rw [hchosen] at hread
  have hchecked : t.Passes (h.surroundings env) t.start.stage v _ (.rereading _ (t.limit - 1)) _ :=
    .next hread rfl
  have hdrafted : t.Passes (h.surroundings env) t.start.stage v _
      (.writing _ (t.limit - 1) (web.bind _ _)) _ := .next hchecked rfl
  have hrefused : t.Passes (h.surroundings env) t.start.stage v _ (.pausing _ _) _ := .next hdrafted rfl
  have hsleeps : t.Passes (h.surroundings env) t.start.stage v _ (.sleeping _ _) _ := .next hrefused rfl
  have halarm : ∀ u : Vigil Unit, u.flag = .new false →
      u.Alarmed (u.now + h.delay 0) (h.glances u.calls) := by
    intro u hflag
    refine ⟨[], _, [], rfl, nofun, ?_⟩
    show (u.flag.through [some true]).raised = true
    rw [hflag]
    rfl
  obtain ⟨-, hcancelled, -⟩ := reconcile_obeys_signal t env h (v := v) (Nat.le_refl 0)
  exact ⟨Nat.le_refl 0, ⟨_, _, _, _, hsleeps, halarm _ rfl, rfl⟩,
    (hcancelled _ _ _ _ hsleeps (halarm _ rfl)).1⟩

end Task
end Allotment
