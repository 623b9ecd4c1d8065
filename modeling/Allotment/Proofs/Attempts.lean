import Allotment.Proofs.Growth
import Allotment.Proofs.Passages
import Allotment.Proofs.Verdict
import Allotment.Store
/-!
# Attempts

What a reconciliation does with the stores once its address is chosen (`Task.persist`).  It
makes attempts: each reads the service and, if it is unbound, writes the copy that was read
with the address stamped on it and nothing else changed (`Service.Stamped`).  Every call is
written down with its answer (`Surroundings.overheard`), whatever the answers are.  One
attempt leads where `Attempt.stage` says (`upshot_attempt`); by induction on the attempts
that are left, what is written down is a transcript of attempts with one sleep between each
and the next (`upshot_checking`).
-/
namespace Allotment

namespace Service

/-- Whether the second service is the first, taken for an address and unchanged otherwise. -/
structure Stamped (id text : String) (s draft : Service) : Prop where
  key : draft.key = s.key
  uid : draft.uid = s.uid
  version : draft.version = s.version
  status : draft.status = s.status
  labels : ∀ label, label ≠ ownerLabel → label ≠ addressLabel → draft.labels[label]? = s.labels[label]?
  owner : draft.labels[ownerLabel]? = some id
  address : draft.address? = some text
  assigned : draft.assigned = some text

theorem stamped_bind (s : Service) (id text : String) : s.Stamped id text (s.bind id text) where
  key := rfl
  uid := rfl
  version := rfl
  status := rfl
  labels label howner haddress := by
    have howner' : compare ownerLabel label ≠ .eq := by
      rw [ne_eq, Std.LawfulEqCmp.compare_eq_iff_eq]
      exact Ne.symm howner
    have haddress' : compare addressLabel label ≠ .eq := by
      rw [ne_eq, Std.LawfulEqCmp.compare_eq_iff_eq]
      exact Ne.symm haddress
    rw [bind, Std.ExtTreeMap.getElem?_insert, if_neg haddress', Std.ExtTreeMap.getElem?_insert,
      if_neg howner']
  owner := s.owner_bind id text
  address := s.address?_bind id text
  assigned := rfl

end Service

/-! ## Calls that are overheard -/

inductive Exchange where
  | got (key : Key) (answer : Except StoreFault Service)
  | updated (draft : Service) (answer : Except StoreFault Service)
  | slept (retry : Nat)
  /-- A call for services or for a document. -/
  | other
deriving DecidableEq

namespace Surroundings

variable {σ : Type}

/-- Surroundings that write down every call but the looks at the signal. -/
def overheard (env : Surroundings σ) : Surroundings (σ × List Exchange) where
  list w ns selector :=
    let (answer, v) := env.list w.1 ns selector
    (answer, v, w.2 ++ [.other])
  getDocument w key :=
    let (answer, v) := env.getDocument w.1 key
    (answer, v, w.2 ++ [.other])
  createDocument w key :=
    let (answer, v) := env.createDocument w.1 key
    (answer, v, w.2 ++ [.other])
  get w key :=
    let (answer, v) := env.get w.1 key
    (answer, v, w.2 ++ [.got key answer])
  update w s :=
    let (answer, v) := env.update w.1 s
    (answer, v, w.2 ++ [.updated s answer])
  signal w :=
    let (stopped, v) := env.signal w.1
    (stopped, v, w.2)
  sleep w n :=
    let (stopped, v) := env.sleep w.1 n
    (stopped, v, w.2 ++ [.slept n])

/-- Whether the signal is never found raised. -/
structure Unstopped (env : Surroundings σ) : Prop where
  signal : ∀ w, (env.signal w).1 = false
  sleep : ∀ w n, (env.sleep w n).1 = false

end Surroundings

/-! ## One attempt after another -/

/-- An attempt to write, as far as it came: the service could not be read, or was found bound, or was found
unbound and a draft of it was written. -/
inductive Attempt where
  | unread (fault : StoreFault)
  | kept (latest : Service) (address : String)
  | wrote (latest draft : Service) (answer : Except StoreFault Service)

namespace Attempt

variable (t : Task) (a : Address)

def exchanges (key : Key) : Attempt → List Exchange
  | unread f => [.got key (.error f)]
  | kept latest _ => [.got key (.ok latest)]
  | wrote latest draft answer => [.got key (.ok latest), .updated draft answer]

def isConflicted : Attempt → Bool
  | wrote _ _ (.error f) => f.isConflict
  | _ => false

/-- How the reconciliation ends if no other attempt follows. -/
def result : Attempt → Except Failure Outcome
  | unread f => .error (.store f)
  | kept latest address => .ok ⟨address, false, latest⟩
  | wrote _ _ (.ok stored) => .ok ⟨a.text, true, stored⟩
  | wrote _ _ (.error f) =>
    if f.isConflict then
      .error (.persistenceFailed t.service.key.text (max t.settings.backoff.attempts 1))
    else .error (.store f)

/-- Whether the attempt did what it found to do: a bound service keeps its address, and the draft is the
copy that was read, taken for the address. -/
def Proper : Attempt → Prop
  | unread _ => True
  | kept latest address => latest.isBound = true ∧ latest.assigned = some address
  | wrote latest draft _ => latest.isBound = false ∧ latest.Stamped t.settings.allocatorId a.text draft

/-- Where the attempt leads if `left` others may follow. -/
def stage (x : Attempt) : Nat → Stage
  | 0 => .finished (x.result t a)
  | left + 1 => if x.isConflicted then .pausing a left else .finished (x.result t a)

/-- The calls of some attempts and of a last one, with sleeps in between that are numbered from `i`. -/
def transcript (key : Key) (last : Attempt) : Nat → List Attempt → List Exchange
  | _, [] => last.exchanges key
  | i, x :: before => x.exchanges key ++ .slept i :: transcript key last (i + 1) before

theorem stage_afterWrite (latest draft : Service) (left : Nat) (answer : Except StoreFault Service) :
    (t.afterWrite a left answer).stage = (wrote latest draft answer).stage t a left := by
  cases answer with
  | ok stored => cases left <;> rfl
  | error f =>
    simp only [Task.afterWrite]
    split
    · rename_i hconflict
      cases left with
      | zero =>
        simp only [stage, result, hconflict, if_true]
        rfl
      | succ left => simp [stage, isConflicted, hconflict, Task.after]
    · rename_i hother
      cases left <;> simp [stage, isConflicted, result, hother, Task.fail]

end Attempt

namespace Task

variable {σ : Type}

section Upshot

variable (t : Task) (env : Surroundings σ) (w : σ)

/-- How a run ends, whatever it reports on the way. -/
def upshot (s : Stage) : Except Failure Outcome × σ := ((t.run env w s).1, (t.run env w s).2.2)

/-- The part of a reconciliation in which the address that was chosen is written. -/
def persist (a : Address) : Except Failure Outcome × Trace × σ := t.run env w (.checking a (t.limit - 1))

/-- A reconciliation that is allotted an address goes on to write it. -/
theorem run_choose {claims : Claims} {d : PoolDocument} {a : Address}
    (h : d.allot t.service.ns claims = .ok a) :
    t.run env w (t.choose claims d).stage = t.persist env w a := by
  rw [t.stage_choose, h]
  rfl

theorem upshot_finished (result : Except Failure Outcome) :
    t.upshot env w (.finished result) = (result, w) := by
  rw [upshot, run_finished]

variable {env w}

theorem upshot_of_advance {s : Stage} {p : Progress} {v : σ} (hs : s.result? = none)
    (h : t.advance env w s = (p, v)) : t.upshot env w s = t.upshot env v p.stage := by
  rw [upshot, run_of_advance t env w hs, h]
  rfl

theorem run_overheard (s : Stage) (w : σ) (log : List Exchange) :
    (t.run env.overheard (w, log) s).1 = (t.run env w s).1 ∧
      (t.run env.overheard (w, log) s).2.2.1 = (t.run env w s).2.2 := by
  have hadvance : ∀ (s : Stage) (u : σ × List Exchange) (v : σ), s.result? = none → u.1 = v →
      (t.advance env.overheard u s).1 = (t.advance env v s).1 ∧
        (t.advance env.overheard u s).2.1 = (t.advance env v s).2 := by
    rintro s u v hs rfl
    cases s with
    | finished result => cases hs
    | _ => exact ⟨rfl, rfl⟩
  obtain ⟨hresult, -, hafter⟩ := t.run_of_related (R := fun _ u v => u.1 = v) hadvance s (w, log) w rfl
  exact ⟨hresult, hafter⟩

end Upshot

section Loop

variable (t : Task) (env : Surroundings σ) (a : Address) (w : σ) (log : List Exchange)

theorem upshot_rereading (left : Nat) :
    ∃ (answer : Except StoreFault Service) (v : σ),
      t.upshot env.overheard (w, log) (.rereading a left) =
        t.upshot env.overheard (v, log ++ [.got t.service.key answer]) (t.afterReread a left answer).stage :=
  ⟨_, _, t.upshot_of_advance rfl rfl⟩

theorem upshot_writing (left : Nat) (draft : Service) :
    ∃ (answer : Except StoreFault Service) (v : σ),
      t.upshot env.overheard (w, log) (.writing a left draft) =
        t.upshot env.overheard (v, log ++ [.updated draft answer]) (t.afterWrite a left answer).stage :=
  ⟨_, _, t.upshot_of_advance rfl rfl⟩

variable {env} (h : env.Unstopped)

include h

/-- **One attempt**: what it writes down, and where it leads. -/
theorem upshot_attempt (left : Nat) :
    ∃ (x : Attempt) (v : σ), x.Proper t a ∧
      t.upshot env.overheard (w, log) (.checking a left) =
        t.upshot env.overheard (v, log ++ x.exchanges t.service.key) (x.stage t a left) := by
  have hcheck : t.advance env.overheard (w, log) (.checking a left) =
      (⟨.rereading a left, []⟩, (env.signal w).2, log) := by
    simp [advance, Surroundings.overheard, afterCheck, h.signal]
  obtain ⟨answer, v, hread⟩ := t.upshot_rereading env a (env.signal w).2 log left
  rw [t.upshot_of_advance rfl hcheck, hread]
  -- from here on the answer to the reading decides
  cases answer with
  | error f => exact ⟨.unread f, v, trivial, by cases left <;> rfl⟩
  | ok latest =>
    cases hbinding : latest.binding? with
    | some address =>
      refine ⟨.kept latest address, v, Service.binding?_eq_some_iff.1 hbinding, ?_⟩
      simp only [afterReread, hbinding]
      cases left <;> rfl
    | none =>
      have hdraft : (t.afterReread a left (.ok latest)).stage =
          .writing a left (latest.bind t.settings.allocatorId a.text) := by
        simp only [afterReread, hbinding]
      obtain ⟨stored, u, hwrite⟩ := t.upshot_writing env a v (log ++ [.got t.service.key (.ok latest)]) left
        (latest.bind t.settings.allocatorId a.text)
      refine ⟨.wrote latest (latest.bind t.settings.allocatorId a.text) stored, u,
        ⟨Service.binding?_eq_none_iff.1 hbinding, latest.stamped_bind _ _⟩, ?_⟩
      rw [hdraft, hwrite, Attempt.stage_afterWrite, List.append_assoc]
      rfl

/-- **Between two attempts there is one sleep.** -/
theorem upshot_pausing (left : Nat) :
    ∃ v : σ, t.upshot env.overheard (w, log) (.pausing a left) =
      t.upshot env.overheard (v, log ++ [.slept (t.retry left)]) (.checking a left) := by
  have hpause : t.advance env.overheard (w, log) (.pausing a left) =
      (⟨.sleeping a left, []⟩, (env.signal w).2, log) := by
    simp [advance, Surroundings.overheard, afterPause, h.signal]
  have hsleep : t.advance env.overheard ((env.signal w).2, log) (.sleeping a left) =
      (⟨.checking a left, []⟩, (env.sleep (env.signal w).2 (t.retry left)).2,
        log ++ [.slept (t.retry left)]) := by
    simp [advance, Surroundings.overheard, afterSleep, h.sleep]
  rw [t.upshot_of_advance rfl hpause, t.upshot_of_advance rfl hsleep]
  exact ⟨_, rfl⟩

/-- **The attempts from one on**, of which `i` have been made and `left` may follow it. -/
theorem upshot_checking {i left : Nat} (hi : i + left + 1 = t.limit) :
    ∃ (before : List Attempt) (last : Attempt) (v : σ),
      t.upshot env.overheard (w, log) (.checking a left) =
        (last.result t a, v, log ++ last.transcript t.service.key i before) ∧
      before.length ≤ left ∧ (last.isConflicted = true → before.length = left) ∧
      (∀ x ∈ before, x.isConflicted = true) ∧ ∀ x ∈ before ++ [last], x.Proper t a := by
  -- `i` grows as `left` falls, so the sleep behind the first of these attempts has the number `i`
  induction left generalizing i w log with
  | zero =>
    obtain ⟨x, v, hproper, hx⟩ := t.upshot_attempt a w log h 0
    rw [Attempt.stage, upshot_finished] at hx
    exact ⟨[], x, v, hx, Nat.le_refl _, fun _ => rfl, nofun, by simpa using hproper⟩
  | succ left ih =>
    obtain ⟨x, v, hproper, hx⟩ := t.upshot_attempt a w log h (left + 1)
    rw [Attempt.stage] at hx
    split at hx
    · rename_i hconflicted
      obtain ⟨u, hu⟩ := t.upshot_pausing a v (log ++ x.exchanges t.service.key) h left
      have hretry : t.retry left = i := by
        rw [retry, attempt]
        omega
      rw [hretry] at hu
      obtain ⟨before, last, v', hrest, hlength, hexhausted, hbefore, hall⟩ :=
        ih u (log ++ x.exchanges t.service.key ++ [.slept i]) (show i + 1 + left + 1 = t.limit by omega)
      refine ⟨x :: before, last, v', ?_, ?_, fun hlast => ?_, ?_, ?_⟩
      · rw [hx, hu, hrest, Attempt.transcript]
        simp
      · simpa using hlength
      · simpa using hexhausted hlast
      · simpa using ⟨hconflicted, hbefore⟩
      · simpa using ⟨hproper, by simpa using hall⟩
    · rename_i hended
      rw [upshot_finished] at hx
      exact ⟨[], x, v, hx, Nat.zero_le _, fun hlast => absurd hlast hended, nofun, by simpa using hproper⟩

end Loop

/-- **The write loop.**  The address that was chosen is written in attempts, at most as many as allowed and
at least one.  An attempt reads the service and, only if it finds it unbound, writes the copy it read with
this address stamped on it; no other call is made.  Another attempt follows exactly if the write met a
conflict and attempts are left, after one sleep, whose number is that of the attempt from zero.  The last
attempt decides the end: a service found bound keeps its address, an accepted write binds it, a fault is
passed on as it is, and a conflict means that as many attempts failed as are allowed. -/
theorem persist_in_attempts (t : Task) {env : Surroundings σ} (h : env.Unstopped) (w : σ) (a : Address) :
    let run := t.persist env.overheard (w, []) a
    let allowed := max t.settings.backoff.attempts 1
    (run.1 = (t.persist env w a).1 ∧ run.2.2.1 = (t.persist env w a).2.2) ∧
    ∃ (before : List Attempt) (last : Attempt),
      run.2.2.2 = last.transcript t.service.key 0 before ∧ run.1 = last.result t a ∧
      before.length + 1 ≤ allowed ∧ (last.isConflicted = true → before.length + 1 = allowed) ∧
      (∀ x ∈ before, x.isConflicted = true) ∧ ∀ x ∈ before ++ [last], x.Proper t a := by
  intro run allowed
  have hpositive : 0 < t.limit := Nat.lt_of_lt_of_le Nat.zero_lt_one (Nat.le_max_right _ _)
  have hallowed : allowed = t.limit := rfl
  have hfirst : 0 + (t.limit - 1) + 1 = t.limit := by omega
  obtain ⟨before, last, v, hrun, hlength, hexhausted, hbefore, hall⟩ := t.upshot_checking a w [] h hfirst
  have hresult : run.1 = last.result t a := congrArg (·.1) hrun
  have hlog : run.2.2.2 = last.transcript t.service.key 0 before := congrArg (·.2.2) hrun
  refine ⟨t.run_overheard _ w [], before, last, hlog, hresult, by omega, fun hlast => ?_, hbefore, hall⟩
  have := hexhausted hlast
  omega

/-- Two attempts are allowed, and both meet a conflict. -/
theorem persist_in_attempts_exhausted :
    let web : Service := ⟨"default", "web", "", ∅, none, 1, ⟨[]⟩⟩
    let moved : Service := { web with version := 2 }
    let bound (s : Service) : Service := s.bind "vip-ipam" "10.0.0.1"
    let refusal (read found : UInt64) : StoreFault := .versionConflict "default/web" read found
    let t : Task := ⟨{ Settings.standard with backoff := .immediate 2 }, web⟩
    let st : Stores := ⟨{ Registry.empty.insert web with conflictsDue := 2 }, .empty⟩
    let env := Stores.surroundings false
    let run := t.persist env.overheard (st, []) (.v4 0x0a000001#32)
    env.Unstopped ∧ run.1 = .error (.persistenceFailed "default/web" 2) ∧
    run.2.2.2 =
      [.got web.key (.ok web), .updated (bound web) (.error (refusal 1 2)), .slept 0,
        .got web.key (.ok moved), .updated (bound moved) (.error (refusal 2 3))] ∧
    ∃ (before : List Attempt) (last : Attempt),
      run.2.2.2 = last.transcript web.key 0 before ∧ before.length + 1 ≤ 2 ∧
      (∀ x ∈ before, x.isConflicted = true) ∧ ∀ x ∈ before ++ [last], x.Proper t (.v4 0x0a000001#32) := by
  intro web moved bound refusal t st env run
  have hunstopped : env.Unstopped := ⟨fun _ => rfl, fun _ _ => rfl⟩
  obtain ⟨-, before, last, hlog, -, hlength, -, hbefore, hall⟩ :=
    t.persist_in_attempts hunstopped st (.v4 0x0a000001#32)
  exact ⟨hunstopped, by decide +kernel, by decide +kernel, before, last, hlog, hlength, hbefore, hall⟩

end Task
end Allotment
