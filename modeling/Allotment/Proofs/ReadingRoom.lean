import Allotment.Proofs.Archive
import Allotment.Proofs.Calls
/-!
# The reading room

Any number of readers of the pool document, each with one call at a time: reconciliations,
and plain questions for the document (`Inquiry`).  Between their calls an administrator
puts documents and the archive comes and goes.  Every call for a document is written down
with its answer (`Surroundings.recorded`).  What a reader's call can do to the archive is
little (`Reader.Visit`): nothing, a reading, or the creation of the pool document.
-/
namespace Allotment

/-! ## A question for the document, call by call -/

/-- What a question for the pool document waits for. -/
inductive Inquiry where
  | reading
  | creating
  | answered (result : Except Failure PoolDocument)

namespace Inquiry

variable {σ : Type}

def isCreating : Inquiry → Bool
  | creating => true
  | _ => false

/-- Only a document that is missing is created. -/
def afterReading : Except StoreFault PoolDocument → Inquiry
  | .ok d => .answered (.ok d)
  | .error f => if f.isNotFound then .creating else .answered (.error (.store f))

/-- One answer of the surroundings, and where it leads. -/
def advance (settings : Settings) (env : Surroundings σ) (w : σ) : Inquiry → Inquiry × σ
  | reading =>
    let (answer, w) := env.getDocument w settings.document
    (afterReading answer, w)
  | creating =>
    let (answer, w) := env.createDocument w settings.document
    (.answered (answer.mapError .store), w)
  | answered result => (.answered result, w)

/-- **Two calls answer the question**, with nothing in between but the report that the document is
missing. -/
theorem advance_advance (settings : Settings) (env : Surroundings σ) (report : σ → List Notice → σ)
    (w : σ) :
    let first := advance settings env w .reading
    let reported := if first.1.isCreating then report first.2 [.documentMissing settings.document] else first.2
    let whole := env.document report settings w
    advance settings env reported first.1 = (.answered whole.1, whole.2) := by
  obtain ⟨answer, w', hread⟩ : ∃ answer w', env.getDocument w settings.document = (answer, w') :=
    ⟨_, _, rfl⟩
  simp only [advance, Surroundings.document, hread]
  cases answer with
  | ok d => rfl
  | error f =>
    by_cases hmissing : f.isNotFound = true
    · simp only [afterReading, hmissing, if_true]
      rfl
    · simp only [afterReading, hmissing]
      rfl

theorem missing_of_isCreating {answer : Except StoreFault PoolDocument}
    (h : (afterReading answer).isCreating = true) : ∃ f, answer = .error f ∧ f.isNotFound = true := by
  unfold afterReading at h
  split at h
  · cases h
  · rename_i f
    split at h
    · rename_i hmissing
      exact ⟨f, rfl, hmissing⟩
    · cases h

end Inquiry

/-! ## Calls that are written down -/

/-- A call for a document, with its answer. -/
inductive DocumentCall where
  | read (key : Key) (answer : Except StoreFault PoolDocument)
  | create (key : Key) (answer : Except StoreFault PoolDocument)
deriving DecidableEq

/-- Who called for a document, the latest call first. -/
abbrev CallLog := List (Nat × DocumentCall)

/-- Surroundings that write down every call for a document. -/
def Surroundings.recorded {σ : Type} (env : Surroundings σ) (reader : Nat) :
    Surroundings (σ × CallLog) where
  list w ns selector :=
    let (answer, v) := env.list w.1 ns selector
    (answer, v, w.2)
  getDocument w key :=
    let (answer, v) := env.getDocument w.1 key
    (answer, v, (reader, .read key answer) :: w.2)
  createDocument w key :=
    let (answer, v) := env.createDocument w.1 key
    (answer, v, (reader, .create key answer) :: w.2)
  get w key :=
    let (answer, v) := env.get w.1 key
    (answer, v, w.2)
  update w s :=
    let (answer, v) := env.update w.1 s
    (answer, v, w.2)
  signal w :=
    let (stopped, v) := env.signal w.1
    (stopped, v, w.2)
  sleep w n :=
    let (stopped, v) := env.sleep w.1 n
    (stopped, v, w.2)

/-! ## Readers -/

def Stage.isCreating : Stage → Bool
  | .creatingDocument _ => true
  | _ => false

/-- Who reads the pool document, and how far the reading has come. -/
inductive Reader where
  | sync (copy : Service) (stage : Stage)
  | inquiry (i : Inquiry)

namespace Reader

/-- Whether the next call is the creation of the pool document. -/
def isCreating : Reader → Bool
  | sync _ stage => stage.isCreating
  | inquiry i => i.isCreating

def advance {σ : Type} (settings : Settings) (env : Surroundings σ) (w : σ) : Reader → Reader × σ
  | sync copy stage =>
    let (p, w) := Task.advance ⟨settings, copy⟩ env w stage
    (.sync copy p.stage, w)
  | inquiry i =>
    let (i, w) := i.advance settings env w
    (.inquiry i, w)

/-- What the call of a reader comes to, as far as documents are concerned. -/
inductive Visit (settings : Settings) (reader : Nat) (a : Archive) (log : CallLog) (r r' : Reader) :
    Archive → CallLog → Prop where
  | quiet : r.isCreating = false → r'.isCreating = false → Visit settings reader a log r r' a log
  | read : r.isCreating = false →
      (r'.isCreating = true → a.get settings.document = .error (.notFound .document settings.document)) →
      Visit settings reader a log r r' a
        ((reader, .read settings.document (a.get settings.document)) :: log)
  | create : r.isCreating = true → r'.isCreating = false →
      Visit settings reader a log r r' (a.create settings.document).2
        ((reader, .create settings.document (a.create settings.document).1) :: log)

end Reader

namespace Task

variable {t : Task}

theorem isCreating_choose (claims : Claims) (d : PoolDocument) :
    (t.choose claims d).stage.isCreating = false := by
  rcases t.choose_cases claims d with ⟨f, hf⟩ | ⟨a, left, ha, -⟩
  · rw [hf]
    rfl
  · rw [ha]
    rfl

/-- Only the answer that the document is missing leads on to its creation. -/
theorem missing_of_isCreating {claims : Claims} {answer : Except StoreFault PoolDocument}
    (h : (t.afterDocument claims answer).stage.isCreating = true) :
    ∃ f, answer = .error f ∧ f.isNotFound = true := by
  unfold afterDocument at h
  split at h
  · rw [isCreating_choose] at h
    cases h
  · rename_i f
    split at h
    · rename_i hmissing
      exact ⟨f, rfl, hmissing⟩
    · cases h

theorem isCreating_afterCreation (claims : Claims) (answer : Except StoreFault PoolDocument) :
    (t.afterCreation claims answer).stage.isCreating = false := by
  unfold afterCreation
  split
  · exact isCreating_choose claims _
  · rfl

theorem isCreating_advance (raised : Bool) (st : Stores) {s : Stage}
    (hs : ∀ claims, s ≠ .readingDocument claims) (hcreating : s.isCreating = false) :
    (t.advance (Stores.surroundings raised) st s).1.stage.isCreating = false := by
  have hleads := t.leads_advance none raised st s
  change t.Leads none st.registry s (t.advance (Stores.surroundings raised) st s).1.stage at hleads
  generalize (t.advance (Stores.surroundings raised) st s).1.stage = s' at hleads ⊢
  cases hleads with
  | missing => exact absurd rfl (hs _)
  | _ => rfl

theorem advance_recorded (reader : Nat) (raised : Bool) (st : Stores) (log : CallLog) {s : Stage}
    (hs : ∀ claims, s ≠ .readingDocument claims) (hcreating : s.isCreating = false) :
    let next := t.advance (Stores.surroundings raised) st s
    t.advance ((Stores.surroundings raised).recorded reader) (st, log) s = (next.1, next.2, log) ∧
      next.2.archive = st.archive := by
  cases s with
  | readingDocument claims => exact absurd rfl (hs claims)
  | creatingDocument claims => cases hcreating
  | _ => exact ⟨rfl, rfl⟩

end Task

namespace Reader

variable {settings : Settings}

theorem get_of_missing {a : Archive} {key : Key}
    (h : ∃ f, a.get key = .error f ∧ f.isNotFound = true) :
    a.get key = .error (.notFound .document key) := by
  obtain ⟨f, hf, hmissing⟩ := h
  rw [hf, Archive.eq_notFound_of_get hf hmissing]

theorem advance_sync {σ : Type} (env : Surroundings σ) (w : σ) (copy : Service) (stage : Stage) :
    (sync copy stage).advance settings env w =
      (.sync copy (Task.advance ⟨settings, copy⟩ env w stage).1.stage,
        (Task.advance ⟨settings, copy⟩ env w stage).2) := rfl

theorem visit_sync (reader : Nat) (raised : Bool) (st : Stores) (log : CallLog) (copy : Service)
    (stage : Stage) :
    let next := (sync copy stage).advance settings ((Stores.surroundings raised).recorded reader) (st, log)
    Visit settings reader st.archive log (.sync copy stage) next.1 next.2.1.archive next.2.2 := by
  intro next
  let t : Task := ⟨settings, copy⟩
  have hquiet : (∀ claims, stage ≠ .readingDocument claims) → stage.isCreating = false →
      Visit settings reader st.archive log (.sync copy stage) next.1 next.2.1.archive next.2.2 := by
    intro hreading hcreating
    obtain ⟨hrecorded, harchive⟩ := t.advance_recorded reader raised st log hreading hcreating
    have hnext : next = (.sync copy (t.advance (Stores.surroundings raised) st stage).1.stage,
        (t.advance (Stores.surroundings raised) st stage).2, log) := by
      refine (advance_sync _ _ copy stage).trans ?_
      rw [hrecorded]
    rw [hnext, harchive]
    exact .quiet hcreating (t.isCreating_advance raised st hreading hcreating)
  cases stage with
  | readingDocument claims => exact .read rfl fun h => get_of_missing (t.missing_of_isCreating h)
  | creatingDocument claims => exact .create rfl (t.isCreating_afterCreation claims _)
  | _ => exact hquiet nofun rfl

/-- **What the call of a reader comes to.** -/
theorem visit_advance (reader : Nat) (raised : Bool) (st : Stores) (log : CallLog) (r : Reader) :
    let next := r.advance settings ((Stores.surroundings raised).recorded reader) (st, log)
    Visit settings reader st.archive log r next.1 next.2.1.archive next.2.2 := by
  cases r with
  | sync copy stage => exact visit_sync reader raised st log copy stage
  | inquiry i =>
    cases i with
    | reading => exact .read rfl fun h => get_of_missing (Inquiry.missing_of_isCreating h)
    | creating => exact .create rfl rfl
    | answered result => exact .quiet rfl rfl

end Reader
end Allotment
