import Allotment.Proofs.ReadingRoom
/-!
# Bootstrap

An allocator that starts without a pool document creates an empty one, and an
administrator may be quicker.  Over every run of a reading room no reader takes a document
away or replaces one (`peek?_move_of_some`); who creates the document was told before that
it is missing (`Sound`), and gets whatever is stored by that time; and what is added is the
empty pool document, once at most (`bootstrap_is_careful`).
-/
namespace Allotment

/-- The stores, the calls for documents so far, and the readers, in the order in which they came. -/
structure ReadingRoom (settings : Settings) where
  stores : Stores
  log : CallLog
  readers : List Reader

namespace ReadingRoom

/-- What can happen next. -/
inductive Move where
  /-- A reconciliation begins. -/
  | sync (copy : Service)
  /-- Somebody asks for the pool document. -/
  | inquire
  /-- The reader with this number makes the next call; one that looks at the signal instead finds it raised
  or not. -/
  | advance (i : Nat) (raised : Bool)
  /-- An administrator puts a document. -/
  | put (key : Key) (d : PoolDocument)
  | setUnavailable (b : Bool)
  /-- Anything done to the services. -/
  | setRegistry (r : Registry)

/-- Whether a move puts a document under a key. -/
def Move.puts (key : Key) : Move → Bool
  | .put k _ => k == key
  | _ => false

variable {settings : Settings}

def vacant (settings : Settings) (st : Stores) : ReadingRoom settings := ⟨st, [], []⟩

def peek? (c : ReadingRoom settings) (key : Key) : Option PoolDocument := c.stores.archive.peek? key

def come (c : ReadingRoom settings) (r : Reader) : ReadingRoom settings :=
  { c with readers := c.readers ++ [r] }

def advance (c : ReadingRoom settings) (i : Nat) (raised : Bool) : ReadingRoom settings :=
  match c.readers[i]? with
  | none => c
  | some r =>
    let (r, stores, log) := r.advance settings ((Stores.surroundings raised).recorded i) (c.stores, c.log)
    ⟨stores, log, c.readers.set i r⟩

def move (c : ReadingRoom settings) : Move → ReadingRoom settings
  | .sync copy => c.come (.sync copy (Task.start ⟨settings, copy⟩).stage)
  | .inquire => c.come (.inquiry .reading)
  | .advance i raised => c.advance i raised
  | .put key d => { c with stores := { c.stores with archive := c.stores.archive.put key d } }
  | .setUnavailable b =>
    { c with stores := { c.stores with archive := { c.stores.archive with unavailable := b } } }
  | .setRegistry r => { c with stores := { c.stores with registry := r } }

def run (c : ReadingRoom settings) (ms : List Move) : ReadingRoom settings := ms.foldl move c

/-- Whether a reader's call adds a document. -/
def Adds (c : ReadingRoom settings) (m : Move) : Prop :=
  (∃ i raised, m = .advance i raised) ∧ ∃ key, c.peek? key = none ∧ (c.move m).peek? key ≠ none

/-! ## One move -/

theorem advance_cases (c : ReadingRoom settings) (i : Nat) (raised : Bool) :
    c.advance i raised = c ∨ ∃ r r' st' log', c.readers[i]? = some r ∧
      r.Visit settings i c.stores.archive c.log r' st'.archive log' ∧
      c.advance i raised = ⟨st', log', c.readers.set i r'⟩ := by
  unfold advance
  cases hr : c.readers[i]? with
  | none => exact .inl rfl
  | some r => exact .inr ⟨r, _, _, _, rfl, Reader.visit_advance i raised c.stores c.log r, rfl⟩

/-- **A reader's call leaves every document as it is**, and adds nothing but the empty pool document. -/
theorem peek?_advance (c : ReadingRoom settings) (i : Nat) (raised : Bool) (key : Key) :
    (c.advance i raised).peek? key = c.peek? key ∨
      settings.document = key ∧ c.peek? key = none ∧ (c.advance i raised).peek? key = some .empty := by
  rcases c.advance_cases i raised with hsame | ⟨r, r', st', log', -, hvisit, hnext⟩
  · rw [hsame]
    exact .inl rfl
  · rw [hnext]
    show st'.archive.peek? key = c.stores.archive.peek? key ∨
      settings.document = key ∧ c.stores.archive.peek? key = none ∧ st'.archive.peek? key = some .empty
    generalize st'.archive = a at hvisit ⊢
    cases hvisit with
    | quiet _ _ => exact .inl rfl
    | read _ _ => exact .inl rfl
    | create _ _ => exact c.stores.archive.peek?_create settings.document key

/-- **Only an administrator replaces a document.** -/
theorem peek?_move_of_some {c : ReadingRoom settings} {m : Move} {key : Key} {d : PoolDocument}
    (hm : m.puts key = false) (h : c.peek? key = some d) : (c.move m).peek? key = some d := by
  cases m with
  | advance i raised =>
    rcases c.peek?_advance i raised key with hsame | ⟨-, hnone, -⟩
    · exact hsame.trans h
    · rw [h] at hnone
      cases hnone
  | put k d' =>
    have hother : k ≠ key := by simpa [Move.puts] using hm
    show (c.stores.archive.put k d').peek? key = some d
    rw [Archive.peek?_put, if_neg hother]
    exact h
  | _ => exact h

theorem peek?_move_ne_none {c : ReadingRoom settings} {key : Key} (m : Move) (h : c.peek? key ≠ none) :
    (c.move m).peek? key ≠ none := by
  obtain ⟨d, hd⟩ := Option.ne_none_iff_exists'.1 h
  cases hm : m.puts key with
  | false =>
    rw [peek?_move_of_some hm hd]
    exact nofun
  | true =>
    cases m with
    | put k d' =>
      have hkey : k = key := by simpa [Move.puts] using hm
      show (c.stores.archive.put k d').peek? key ≠ none
      rw [Archive.peek?_put, if_pos hkey]
      exact nofun
    | _ => cases hm

/-! ## Runs -/

theorem run_append (c : ReadingRoom settings) (before rest : List Move) :
    c.run (before ++ rest) = (c.run before).run rest := List.foldl_append

theorem run_concat (c : ReadingRoom settings) (ms : List Move) (m : Move) :
    c.run (ms ++ [m]) = (c.run ms).move m := by
  rw [run_append]
  rfl

/-- **What every move keeps up holds in the end.** -/
theorem kept_run {P : ReadingRoom settings → Prop} : ∀ (ms : List Move) {c : ReadingRoom settings},
    (∀ c, ∀ m ∈ ms, P c → P (c.move m)) → P c → P (c.run ms)
  | [], _, _, h => h
  | m :: ms, c, hmove, h =>
    kept_run ms (fun c m' hm' => hmove c m' (List.mem_cons_of_mem m hm')) (hmove c m List.mem_cons_self h)

/-! ## Who creates was told -/

/-- The last that a reader was told, if it was that the pool document is missing. -/
def Told (settings : Settings) (log : CallLog) (i : Nat) : Prop :=
  log.find? (fun e => e.1 == i) =
    some (i, .read settings.document (.error (.notFound .document settings.document)))

/-- Whether every creation was called for by a reader who was told before that the document is missing. -/
def Warranted (settings : Settings) (log : CallLog) : Prop :=
  ∀ later i key answer earlier, log = later ++ (i, .create key answer) :: earlier →
    key = settings.document ∧ Told settings earlier i

/-- What holds at every moment: who is about to create the pool document, or has done so, was told that it
is missing, and has not called in between. -/
structure Sound (c : ReadingRoom settings) : Prop where
  waiting : ∀ i r, c.readers[i]? = some r → r.isCreating = true → Told settings c.log i
  created : Warranted settings c.log

theorem told_cons {log : CallLog} {i j : Nat} (call : DocumentCall) (hij : j ≠ i)
    (h : Told settings log i) : Told settings ((j, call) :: log) i := by
  unfold Told
  rw [List.find?_cons_of_neg (by simpa using hij)]
  exact h

theorem Warranted.read {log : CallLog} (h : Warranted settings log) (i : Nat) (k : Key)
    (answer : Except StoreFault PoolDocument) : Warranted settings ((i, .read k answer) :: log) := by
  intro later j key answer' earlier hsplit
  cases later with
  | nil => cases hsplit
  | cons e later =>
    cases hsplit
    exact h later j key answer' earlier rfl

theorem Warranted.create {log : CallLog} (h : Warranted settings log) {i : Nat} (htold : Told settings log i)
    (answer : Except StoreFault PoolDocument) :
    Warranted settings ((i, .create settings.document answer) :: log) := by
  intro later j key answer' earlier hsplit
  cases later with
  | nil =>
    cases hsplit
    exact ⟨rfl, htold⟩
  | cons e later =>
    cases hsplit
    exact h later j key answer' earlier rfl

theorem sound_come {c : ReadingRoom settings} (h : c.Sound) {r : Reader} (hr : r.isCreating = false) :
    (c.come r).Sound := by
  refine ⟨fun i r' hr' hcreating => ?_, h.created⟩
  have hr' : (c.readers ++ [r])[i]? = some r' := hr'
  by_cases hi : i < c.readers.length
  · rw [List.getElem?_append_left hi] at hr'
    exact h.waiting i r' hr' hcreating
  · rw [List.getElem?_append_right (Nat.le_of_not_lt hi)] at hr'
    rw [List.mem_singleton.1 (List.mem_of_getElem? hr'), hr] at hcreating
    cases hcreating

theorem waiting_set {c : ReadingRoom settings} (h : c.Sound) {i : Nat} {r' : Reader} {log : CallLog}
    (hothers : ∀ j, i ≠ j → Told settings c.log j → Told settings log j)
    (hself : r'.isCreating = true → Told settings log i) :
    ∀ j r, (c.readers.set i r')[j]? = some r → r.isCreating = true → Told settings log j := by
  intro j r hr hcreating
  by_cases hij : i = j
  · subst hij
    have hi := (List.getElem?_eq_some_iff.1 hr).1
    rw [List.length_set] at hi
    rw [List.getElem?_set_self hi] at hr
    obtain rfl : r' = r := Option.some.inj hr
    exact hself hcreating
  · rw [List.getElem?_set_ne hij] at hr
    exact hothers j hij (h.waiting j r hr hcreating)

theorem sound_advance {c : ReadingRoom settings} (h : c.Sound) (i : Nat) (raised : Bool) :
    (c.advance i raised).Sound := by
  rcases c.advance_cases i raised with hsame | ⟨r, r', st', log', hr, hvisit, hnext⟩
  · rw [hsame]
    exact h
  · rw [hnext]
    generalize st'.archive = a at hvisit
    cases hvisit with
    | quiet _ hr' =>
      refine ⟨waiting_set h (fun _ _ hj => hj) fun hcreating => ?_, h.created⟩
      rw [hr'] at hcreating
      cases hcreating
    | read _ hr' =>
      refine ⟨waiting_set h (fun j hij hj => told_cons _ hij hj) fun hcreating => ?_, h.created.read i _ _⟩
      -- who goes on to create the document has just read that it is missing
      rw [hr' hcreating]
      simp [Told]
    | create hcreating hr' =>
      refine ⟨waiting_set h (fun j hij hj => told_cons _ hij hj) fun hcreating => ?_,
        h.created.create (h.waiting i r hr hcreating) _⟩
      rw [hr'] at hcreating
      cases hcreating

/-- **Every move keeps up what holds at every moment.** -/
theorem sound_move {c : ReadingRoom settings} (h : c.Sound) (m : Move) : (c.move m).Sound := by
  cases m with
  | sync copy =>
    refine sound_come h ?_
    rcases Task.stage_start ⟨settings, copy⟩ with ⟨hstart, -⟩ | ⟨address, -, hstart⟩
    · show (Task.start ⟨settings, copy⟩).stage.isCreating = false
      rw [hstart]
      rfl
    · show (Task.start ⟨settings, copy⟩).stage.isCreating = false
      rw [hstart]
      rfl
  | inquire => exact sound_come h rfl
  | advance i raised => exact sound_advance h i raised
  | _ => exact ⟨h.waiting, h.created⟩

theorem sound_vacant (st : Stores) : (vacant settings st).Sound := by
  refine ⟨fun i r hr => ?_, fun later i key answer earlier hsplit => ?_⟩
  · cases hr
  · cases later <;> cases hsplit

theorem sound_run (st : Stores) (ms : List Move) : ((vacant settings st).run ms).Sound :=
  kept_run ms (fun _ m _ h => sound_move h m) (sound_vacant st)

/-! ## What a creation gives and adds -/

theorem answer_of_create {c : ReadingRoom settings} {i : Nat} {raised : Bool} {key : Key}
    {answer : Except StoreFault PoolDocument}
    (h : (c.advance i raised).log = (i, .create key answer) :: c.log) :
    answer = (c.stores.archive.create settings.document).1 := by
  rcases c.advance_cases i raised with hsame | ⟨r, r', st', log', -, hvisit, hnext⟩
  · rw [hsame] at h
    exact absurd h.symm (List.cons_ne_self _ _)
  · rw [hnext] at h
    change log' = _ at h
    generalize st'.archive = a at hvisit
    cases hvisit with
    | quiet _ _ => exact absurd h.symm (List.cons_ne_self _ _)
    | read _ _ => cases h
    | create _ _ =>
      cases h
      rfl

theorem Adds.pool {c : ReadingRoom settings} {m : Move} (h : c.Adds m) :
    c.peek? settings.document = none ∧ (c.move m).peek? settings.document ≠ none := by
  obtain ⟨⟨i, raised, rfl⟩, key, hnone, hadded⟩ := h
  rcases c.peek?_advance i raised key with hsame | ⟨rfl, -, hcreated⟩
  · exact absurd (hsame.trans hnone) hadded
  · exact ⟨hnone, hadded⟩

/-- **Bootstrap is careful.**  Whatever happens in a reading room and in whatever order: no move but the
putting of a document changes or removes one, and a reader's call adds nothing but the empty pool document.
Who creates it was told by the call before that it is missing.  Once an administrator has put it, it stays
as it was put, and who creates it then gets it as it is, unless the archive cannot be reached.  It is added
once at most. -/
theorem bootstrap_is_careful (settings : Settings) (st : Stores) (ms : List Move) :
    let c := vacant settings st
    (∀ before m rest, ms = before ++ m :: rest → ∀ key d, m.puts key = false →
      ((c.run before).peek? key = some d → ((c.run before).move m).peek? key = some d) ∧
      (((c.run before).move m).peek? key = some d → (c.run before).peek? key = some d ∨
        key = settings.document ∧ d = .empty ∧ ∃ i raised, m = .advance i raised)) ∧
    (∀ later i key answer earlier, (c.run ms).log = later ++ (i, .create key answer) :: earlier →
      key = settings.document ∧
      earlier.find? (fun e => e.1 == i) = some (i, .read key (.error (.notFound .document key)))) ∧
    (∀ before d between, ms = before ++ .put settings.document d :: between →
      (∀ m ∈ between, m.puts settings.document = false) →
      (c.run ms).peek? settings.document = some d ∧
      ∀ i raised key answer,
        ((c.run ms).move (.advance i raised)).log = (i, .create key answer) :: (c.run ms).log →
        answer = (if (c.run ms).stores.archive.unavailable then .error Archive.outage else .ok d) ∧
        ((c.run ms).move (.advance i raised)).peek? settings.document = some d) ∧
    (∀ before m between m' rest, ms = before ++ m :: (between ++ m' :: rest) →
      (c.run before).Adds m → ¬(c.run (before ++ m :: between)).Adds m') := by
  intro c
  refine ⟨?_, ?_, ?_, ?_⟩
  · intro before m rest _ key d hm
    refine ⟨fun h => peek?_move_of_some hm h, fun h => ?_⟩
    cases m with
    | advance i raised =>
      rcases (c.run before).peek?_advance i raised key with hsame | ⟨hkey, -, hcreated⟩
      · exact .inl (hsame.symm.trans h)
      · obtain rfl : PoolDocument.empty = d := Option.some.inj (hcreated.symm.trans h)
        exact .inr ⟨hkey.symm, rfl, i, raised, rfl⟩
    | put k d' =>
      have hother : k ≠ key := by simpa [Move.puts] using hm
      change ((c.run before).stores.archive.put k d').peek? key = some d at h
      rw [Archive.peek?_put, if_neg hother] at h
      exact .inl h
    | _ => exact .inl h
  · intro later i key answer earlier hlog
    obtain ⟨rfl, htold⟩ := (sound_run st ms).created later i key answer earlier hlog
    exact ⟨rfl, htold⟩
  · rintro before d between rfl hbetween
    have hput : ((c.run before).move (.put settings.document d)).peek? settings.document = some d := by
      show ((c.run before).stores.archive.put settings.document d).peek? settings.document = some d
      rw [Archive.peek?_put, if_pos rfl]
    have hstays : (c.run (before ++ .put settings.document d :: between)).peek? settings.document = some d := by
      rw [run_append]
      exact kept_run (P := fun c => c.peek? settings.document = some d) between
        (fun c m hm h => peek?_move_of_some (hbetween m hm) h) hput
    refine ⟨hstays, fun i raised key answer hlog => ⟨?_, peek?_move_of_some rfl hstays⟩⟩
    rw [answer_of_create hlog]
    exact Archive.fst_create_of_some hstays
  · rintro before m between m' rest rfl hadds hagain
    have hadded : (c.run (before ++ m :: between)).peek? settings.document ≠ none := by
      rw [run_append]
      exact kept_run (P := fun c => c.peek? settings.document ≠ none) between
        (fun c m _ h => peek?_move_ne_none m h) hadds.pool.2
    exact hadded hagain.pool.1

/-- Two readers were told that there is no document, an administrator puts one, and both get that one. -/
theorem bootstrap_is_careful_beside_administrator :
    let settings := Settings.standard
    let web : Service := ⟨"default", "web", "", ∅, none, 1, ⟨[]⟩⟩
    let pools : PoolDocument := PoolDocument.empty.insert "cidr-default" "10.0.0.0/29"
    let before : List Move := [.inquire, .sync web, .advance 1 false, .advance 0 false, .advance 1 false]
    let met := (vacant settings ⟨Registry.empty.insert web, .empty⟩).run
      (before ++ [.put settings.document pools, .advance 0 false])
    let next := met.move (.advance 1 false)
    met.log.head? = some (0, .create settings.document (.ok pools)) ∧
      next.log = (1, .create settings.document (.ok pools)) :: met.log ∧
      met.log.find? (fun e => e.1 == 1) =
        some (1, .read settings.document (.error (.notFound .document settings.document))) ∧
      next.peek? settings.document = some pools := by
  intro settings web pools before met next
  let st : Stores := ⟨Registry.empty.insert web, .empty⟩
  let ms : List Move := before ++ [.put settings.document pools, .advance 0 false]
  have hlog : next.log = (1, .create settings.document (.ok pools)) :: met.log := by decide +kernel
  have hnext : next = (vacant settings st).run (ms ++ [.advance 1 false]) :=
    (run_concat (vacant settings st) ms (.advance 1 false)).symm
  obtain ⟨-, -, hput, -⟩ := bootstrap_is_careful settings st ms
  obtain ⟨-, htold, -, -⟩ := bootstrap_is_careful settings st (ms ++ [.advance 1 false])
  rw [← hnext] at htold
  refine ⟨by decide +kernel, hlog, (htold [] 1 settings.document (.ok pools) met.log hlog).2, ?_⟩
  exact ((hput before pools [.advance 0 false] rfl (by simp [Move.puts])).2 1 false settings.document
    (.ok pools) hlog).2

end ReadingRoom
end Allotment
