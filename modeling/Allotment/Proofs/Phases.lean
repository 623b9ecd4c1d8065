import Allotment.Proofs.Calls
import Allotment.Proofs.Passages
import Allotment.Proofs.Verdict
/-!
# Phases

The states that a reconciliation enters are one of five lists, and which one tells how it
ended (`Course`).  What a reconciliation waits for tells which states it has entered by
then (`Stage.entered`); every answer keeps that up, so it holds at every call.
-/
namespace Allotment

/-- The states that were entered, each with the service that is reconciled. -/
def Trace.phases (trace : Trace) : List (Key × Phase) := Notice.phases trace.notices

/-- Whether the pool is to blame. -/
def Failure.isOfPool : Failure → Bool
  | .poolNotFound _ | .invalidPool _ _ | .exhausted _ => true
  | .persistenceFailed _ _ | .cancelled _ | .store _ => false

/-- The states that a reconciliation enters, by its result. -/
inductive Course : List Phase → Except Failure Outcome → Prop where
  | needless (o : Outcome) : Course [.bound] (.ok o)
  | unresolved (f : StoreFault) : Course [.resolving, .failed] (.error (.store f))
  | unallotted {f : Failure} : f.isOfPool = true → Course [.resolving, .allocating, .failed] (.error f)
  | unwritten {f : Failure} : f.isOfPool = false →
      Course [.resolving, .allocating, .persisting, .failed] (.error f)
  | written (o : Outcome) : Course [.resolving, .allocating, .persisting, .bound] (.ok o)

/-- The states that have been entered when an answer is waited for. -/
def Stage.entered : Stage → List Phase
  | listing | readingDocument _ | creatingDocument _ => [.resolving]
  | checking .. | rereading .. | writing .. | pausing .. | sleeping .. =>
    [.resolving, .allocating, .persisting]
  | finished _ => []

namespace Trace

@[simp] theorem phases_nil : phases [] = [] := rfl

@[simp] theorem phases_count (o : Occurrence) (trace : Trace) : phases (.count o :: trace) = phases trace := rfl

@[simp] theorem phases_notice (n : Notice) (trace : Trace) :
    phases (.notice n :: trace) = n.phase?.toList ++ phases trace := by
  cases h : n.phase? <;> simp [phases, notices, Notice.phases, Event.notice?, h]

@[simp] theorem phases_append (trace trace' : Trace) :
    phases (trace ++ trace') = phases trace ++ phases trace' := by
  simp [phases, notices, Notice.phases]

theorem phases_map_notice (ns : List Notice) : phases (ns.map .notice) = Notice.phases ns := by
  induction ns with
  | nil => rfl
  | cons n ns ih => rw [List.map_cons, phases_notice, ih]; cases h : n.phase? <;> simp [Notice.phases, h]

end Trace

theorem isOfPool_of_allot {d : PoolDocument} {ns : String} {claims : Claims} {f : Failure}
    (h : d.allot ns claims = .error f) : f.isOfPool = true := by
  have hverdict := d.verdict_allot ns claims
  rw [h] at hverdict
  cases hverdict <;> rfl

/-! ## Notices that enter no state -/

@[simp] theorem phases_listingNotices (ns : String) (listed : Except StoreFault (List Service)) :
    Notice.phases (Claims.listingNotices ns listed) = [] := by
  cases listed with
  | error f => rfl
  | ok owned =>
    simp [Claims.listingNotices, Claims.builtNotices, Claims.notices, Notice.phases, Notice.phase?]

theorem phases_searchNotices (d : PoolDocument) (ns : String) :
    ∀ names : List PoolName, Notice.phases (d.searchNotices ns names) = []
  | [] => rfl
  | name :: names => by
    unfold PoolDocument.searchNotices
    split
    · rfl
    · exact phases_searchNotices d ns names

@[simp] theorem phases_governingNotices (d : PoolDocument) (ns : String) :
    Notice.phases (d.governingNotices ns) = [] :=
  phases_searchNotices d ns _

@[simp] theorem phases_allocateNotices (p : NamedPool) (claims : Claims) :
    Notice.phases (p.allocateNotices claims) = [] := by
  unfold NamedPool.allocateNotices
  split <;> rfl

namespace Task

variable (t : Task)

/-- The service's way through some states. -/
def path (ps : List Phase) : List (Key × Phase) := ps.map fun p => (t.service.key, p)

@[simp] theorem path_append (ps ps' : List Phase) : t.path (ps ++ ps') = t.path ps ++ t.path ps' := by
  simp [path]

/-- Whether the states that were entered are those that the stage tells. -/
def Along (entered : List (Key × Phase)) (s : Stage) : Prop :=
  match s.result? with
  | none => entered = t.path s.entered
  | some result => ∃ ps, Course ps result ∧ entered = t.path ps

/-- Whether a progress made after some states enters what its stage tells. -/
def Heads (ps : List Phase) (p : Progress) : Prop := t.Along (t.path ps ++ p.trace.phases) p.stage

/-! ## What every answer enters -/

theorem heads_waiting {ps : List Phase} {s : Stage} (hs : s.result? = none) (hps : s.entered = ps)
    {trace : Trace} (htrace : trace.phases = []) : t.Heads ps ⟨s, trace⟩ := by
  unfold Heads Along
  simp [hs, hps, htrace]

theorem heads_fail (ps : List Phase) {f : Failure} (h : Course (ps ++ [.failed]) (.error f)) :
    t.Heads ps (t.fail f) :=
  ⟨_, h, (t.path_append ps [.failed]).symm⟩

theorem heads_succeed (o : Outcome) : t.Heads [.resolving, .allocating, .persisting] (t.succeed o) := by
  refine ⟨_, .written o, ?_⟩
  unfold succeed
  cases o.newlyBound <;> rfl

theorem heads_after {ps : List Phase} {trace : Trace} (htrace : trace.phases = []) {p : Progress}
    (h : t.Heads ps p) : t.Heads ps (after trace p) := by
  unfold Heads after
  rw [Trace.phases_append, htrace]
  exact h

theorem heads_unless (stopped : Bool) {s : Stage} (hs : s.result? = none)
    (hentered : s.entered = [.resolving, .allocating, .persisting]) :
    t.Heads s.entered (if stopped then t.cancel else ⟨s, []⟩) := by
  cases stopped with
  | true => exact hentered ▸ t.heads_fail _ (.unwritten rfl)
  | false => exact t.heads_waiting hs rfl rfl

theorem heads_afterList (listed : Except StoreFault (List Service)) :
    t.Heads [.resolving] (t.afterList listed) := by
  refine t.heads_after ?_ ?_
  · rw [Trace.phases_map_notice, phases_listingNotices]
  · cases listed with
    | error f => exact t.heads_fail _ (.unresolved f)
    | ok ss => rfl

/-- The state that is entered when the document has allotted an address, or none. -/
def phaseOf : Except Failure Address → Phase
  | .error _ => .failed
  | .ok _ => .persisting

theorem heads_choose (claims : Claims) (d : PoolDocument) : t.Heads [.resolving] (t.choose claims d) := by
  have hstage := t.stage_choose claims d
  have hphases : (t.choose claims d).trace.phases =
      t.path [.allocating, phaseOf (d.allot t.service.ns claims)] := by
    have hallocating (trace : Trace) : Trace.phases (t.entered .allocating :: trace) =
        t.path [.allocating] ++ trace.phases := rfl
    unfold choose PoolDocument.allot after
    simp only [hallocating, Trace.phases_append, Trace.phases_map_notice, phases_governingNotices]
    cases d.governing t.service.ns with
    | error f => rfl
    | ok p =>
      simp only [Except.bind, Trace.phases_append, Trace.phases_map_notice, phases_allocateNotices]
      cases p.allocate claims <;> rfl
  unfold Heads
  rw [hstage, hphases]
  cases hv : d.allot t.service.ns claims with
  | error f => exact ⟨_, .unallotted (isOfPool_of_allot hv), rfl⟩
  | ok a => rfl

theorem heads_afterDocument (claims : Claims) (answer : Except StoreFault PoolDocument) :
    t.Heads [.resolving] (t.afterDocument claims answer) := by
  unfold afterDocument
  split
  · exact t.heads_choose claims _
  · split
    · rfl
    · exact t.heads_fail _ (.unresolved _)

theorem heads_afterCreation (claims : Claims) (answer : Except StoreFault PoolDocument) :
    t.Heads [.resolving] (t.afterCreation claims answer) := by
  unfold afterCreation
  split
  · exact t.heads_choose claims _
  · exact t.heads_fail _ (.unresolved _)

theorem heads_afterReread (a : Address) (left : Nat) (answer : Except StoreFault Service) :
    t.Heads [.resolving, .allocating, .persisting] (t.afterReread a left answer) := by
  unfold afterReread
  split
  · exact t.heads_fail _ (.unwritten rfl)
  · split
    · exact t.heads_after rfl (t.heads_succeed _)
    · rfl

theorem heads_afterWrite (a : Address) (left : Nat) (answer : Except StoreFault Service) :
    t.Heads [.resolving, .allocating, .persisting] (t.afterWrite a left answer) := by
  unfold afterWrite
  split
  · exact t.heads_succeed _
  · split
    · refine t.heads_after rfl ?_
      cases left with
      | zero => exact t.heads_fail _ (.unwritten rfl)
      | succ left => rfl
    · exact t.heads_fail _ (.unwritten rfl)

/-- **Every answer enters what the next stage tells.** -/
theorem heads_advance {σ : Type} (env : Surroundings σ) (w : σ) {s : Stage} (hs : s.result? = none) :
    t.Heads s.entered (t.advance env w s).1 := by
  cases s with
  | listing => exact t.heads_afterList _
  | readingDocument claims => exact t.heads_afterDocument claims _
  | creatingDocument claims => exact t.heads_afterCreation claims _
  | checking a left => exact t.heads_unless _ rfl rfl
  | rereading a left => exact t.heads_afterReread a left _
  | writing a left draft => exact t.heads_afterWrite a left _
  | pausing a left => exact t.heads_unless _ rfl rfl
  | sleeping a left => exact t.heads_unless _ rfl rfl
  | finished result => cases hs

theorem along_start : t.Along t.start.trace.phases t.start.stage := by
  unfold start
  cases t.service.binding? with
  | none => rfl
  | some address => exact ⟨_, .needless _, rfl⟩

/-- **At every stage of a reconciliation the stage tells which states were entered.** -/
theorem along_of_passes {σ : Type} {env : Surroundings σ} {w₀ w : σ} {trace : Trace} {s : Stage}
    (h : t.Passes env t.start.stage w₀ trace s w) : t.Along (t.start.trace ++ trace).phases s := by
  refine h.keeps (P := fun trace s _ => t.Along (t.start.trace ++ trace).phases s) ?_ ?_
  · intro trace s w hs halong
    unfold Along at halong
    rw [hs] at halong
    rw [← List.append_assoc, Trace.phases_append, halong]
    exact t.heads_advance env w hs
  · rw [List.append_nil]
    exact t.along_start

theorem head?_phases_start (trace : Trace) :
    (t.start.trace ++ trace).phases.head? =
      some (t.service.key, if t.service.isBound then .bound else .resolving) := by
  unfold start
  cases hb : t.service.binding? with
  | none =>
    have hunbound := Service.binding?_eq_none_iff.1 hb
    rw [hunbound]
    rfl
  | some address =>
    have hbound := (Service.binding?_eq_some_iff.1 hb).1
    rw [hbound]
    rfl

theorem passes_of_bound {σ : Type} {env : Surroundings σ} {w₀ w : σ} {trace : Trace} {s : Stage}
    (hbound : t.service.isBound = true) (h : t.Passes env t.start.stage w₀ trace s w) :
    (∃ result, s = .finished result) ∧ w = w₀ := by
  rcases t.stage_start with ⟨-, hunbound⟩ | ⟨address, -, hfinished⟩
  · rw [Service.binding?_eq_none_iff, hbound] at hunbound
    cases hunbound
  · refine h.keeps (P := fun _ s w => (∃ result, s = .finished result) ∧ w = w₀) ?_ ⟨⟨_, hfinished⟩, rfl⟩
    rintro _ _ w hs ⟨⟨result, rfl⟩, -⟩
    cases hs

end Task

theorem Course.getLast?_eq_bound_iff {ps : List Phase} {result : Except Failure Outcome}
    (h : Course ps result) : ps.getLast? = some .bound ↔ ∃ o, result = .ok o := by
  cases h <;> simp

theorem Course.eq_bound_of_head? {ps : List Phase} {result : Except Failure Outcome}
    (h : Course ps result) (hfirst : ps.head? = some .bound) : ps = [.bound] := by
  cases h <;> simp_all

namespace Task

/-- **A reconciliation follows its course**, whatever the stores answer and whenever the signal is
raised.  It enters the states that its result tells, and ends bound if and only if it ends well.  It
does nothing but end bound if and only if its copy is bound, and then makes no call.  Where it waits
for the answer to a write, it has entered the state in which it persists. -/
theorem reconcile_follows_course {σ : Type} (t : Task) (env : Surroundings σ) (w : σ) :
    let run := t.reconcile env w
    (∃ ps, Course ps run.1 ∧ run.2.1.phases = t.path ps) ∧
    (run.2.1.phases.getLast? = some (t.service.key, .bound) ↔ ∃ o, run.1 = .ok o) ∧
    (run.2.1.phases = t.path [.bound] ↔ t.service.isBound = true) ∧
    (t.service.isBound = true → ∀ trace s v, t.Passes env t.start.stage w trace s v →
      (∃ result, s = .finished result) ∧ v = w) ∧
    ∀ trace a left draft v, t.Passes env t.start.stage w trace (.writing a left draft) v →
      (t.service.key, .persisting) ∈ (t.start.trace ++ trace).phases := by
  intro run
  have hpasses := t.passes_run env w t.start.stage
  have halong := t.along_of_passes hpasses
  obtain ⟨ps, hcourse, hphases⟩ : ∃ ps, Course ps run.1 ∧ run.2.1.phases = t.path ps := halong
  refine ⟨⟨ps, hcourse, hphases⟩, ?_, ?_, fun hbound trace s v h => t.passes_of_bound hbound h, ?_⟩
  · rw [← hcourse.getLast?_eq_bound_iff, hphases, path, List.getLast?_map]
    cases ps.getLast? <;> simp
  · have hhead := t.head?_phases_start (t.run env w t.start.stage).2.1
    change run.2.1.phases.head? = _ at hhead
    constructor
    · intro hneedless
      rw [hneedless] at hhead
      cases hb : t.service.isBound with
      | true => rfl
      | false => simp [path, hb] at hhead
    · intro hbound
      rw [hphases, hbound, path, List.head?_map] at hhead
      rw [hphases, hcourse.eq_bound_of_head? (by cases h : ps.head? <;> simp_all)]
  · intro trace a left draft v h
    have hwriting := t.along_of_passes h
    change (t.start.trace ++ trace).phases = t.path [.resolving, .allocating, .persisting] at hwriting
    rw [hwriting]
    simp [path]

/-- A due conflict costs one attempt and no state. -/
theorem reconcile_follows_course_past_conflict :
    let web : Service := ⟨"default", "web", "", ∅, none, 1, ⟨[]⟩⟩
    let pools : PoolDocument := PoolDocument.empty.insert "cidr-default" "10.0.0.0/29"
    let st : Stores := ⟨{ Registry.empty.insert web with conflictsDue := 1 },
      Archive.empty.put Settings.standard.document pools⟩
    let t : Task := ⟨Settings.standard, web⟩
    let run := t.reconcile (Stores.surroundings false) st
    run.2.1.phases = t.path [.resolving, .allocating, .persisting, .bound] ∧ (∃ o, run.1 = .ok o) ∧
      st.registry.conflictsDue = 1 ∧ run.2.2.registry.conflictsDue = 0 := by
  intro web pools st t run
  have hphases : run.2.1.phases = t.path [.resolving, .allocating, .persisting, .bound] := by decide +kernel
  obtain ⟨-, hends, -⟩ := reconcile_follows_course t (Stores.surroundings false) st
  refine ⟨hphases, hends.1 ?_, rfl, by decide +kernel⟩
  rw [show (t.reconcile (Stores.surroundings false) st).2.1.phases = _ from hphases]
  rfl

end Task
end Allotment
