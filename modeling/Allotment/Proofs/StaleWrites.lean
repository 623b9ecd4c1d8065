import Allotment.Proofs.Registry
/-!
# Stale writes

Whether a write can overwrite something newer than the copy it was made from.  As long
as a service stays in the registry its version only grows, and grows with every call
that takes effect on it, so a copy that still carries the stored version is the stored
service (`exists_peek?_run`).  But a service that was removed and came back starts again
at version one, and then a copy of the old one can carry the version of the new one.
`untouched_iff_not_removed` says that this is the only way: between the return of a copy
and a write of it that is accepted nothing happened to the service, exactly if it was
not removed.
-/
namespace Allotment.Registry

/-- A call to the registry, or one of the knobs that disturb the calls. -/
inductive Call where
  | insert (s : Service)
  | remove (key : Key)
  | get (key : Key)
  | update (s : Service)
  /-- So many of the next writes find a newer version. -/
  | expectConflicts (n : Nat)
  | setUnavailable (b : Bool)

/-- The registry after a call. -/
def after (r : Registry) : Call → Registry
  | .insert s => r.insert s
  | .remove key => r.remove key
  | .get _ => r
  | .update s => (r.update s).2
  | .expectConflicts n => { r with conflictsDue := n }
  | .setUnavailable b => { r with unavailable := b }

/-- The registry after several calls. -/
def run (r : Registry) (cs : List Call) : Registry := cs.foldl after r

/-- The copy of a stored service that a call returns. -/
def copy? (r : Registry) : Call → Option Service
  | .insert s => some (r.stamped s)
  | .get key => (r.get key).toOption
  | .update s => (r.update s).1.toOption
  | _ => none

/-- Whether a call removes what is stored under a key. -/
def removes (r : Registry) (key : Key) : Call → Bool
  | .remove k => k == key && (r.peek? key).isSome
  | _ => false

/-- Whether a call takes effect on what is stored under a key.  A refused write does not, even if a due
conflict moves the version on. -/
def touches (r : Registry) (key : Key) : Call → Bool
  | .insert s => s.key == key
  | .remove k => k == key && (r.peek? key).isSome
  | .update s => s.key == key && (r.update s).1.isOk
  | _ => false

/-- Whether a call is a write that is accepted past a due conflict.  It carries a version that was not
stored yet, and the stored version advances twice. -/
def overtakes (r : Registry) : Call → Bool
  | .update s => r.conflictsDue != 0 && (r.update s).1.isOk
  | _ => false

/-- How many versions a call can use up. -/
def pace (r : Registry) (c : Call) : Nat := if r.overtakes c then 2 else 1

/-- How many versions a run can use up: one for each call, and one more for each write past a due
conflict. -/
def paces (r : Registry) : List Call → Nat
  | [] => 0
  | c :: cs => r.pace c + (r.after c).paces cs

/-- Whether something holds at each call of a run, in the registry as the call finds it. -/
def Throughout (p : Registry → Call → Prop) (r : Registry) (cs : List Call) : Prop :=
  ∀ pre c post, cs = pre ++ c :: post → p (r.run pre) c

/-- No call of the run takes effect on what is stored under the key. -/
def Untouched (r : Registry) (key : Key) (cs : List Call) : Prop :=
  r.Throughout (fun r c => r.touches key c = false) cs

/-- No call of the run removes what is stored under the key. -/
def NotRemoved (r : Registry) (key : Key) (cs : List Call) : Prop :=
  r.Throughout (fun r c => r.removes key c = false) cs

/-! ## Runs -/

theorem run_cons (r : Registry) (c : Call) (cs : List Call) : r.run (c :: cs) = (r.after c).run cs :=
  rfl

theorem run_append (r : Registry) (cs ds : List Call) : r.run (cs ++ ds) = (r.run cs).run ds :=
  List.foldl_append

theorem paces_append (r : Registry) (cs ds : List Call) :
    r.paces (cs ++ ds) = r.paces cs + (r.run cs).paces ds := by
  induction cs generalizing r with
  | nil => simp [paces, run]
  | cons c cs ih => rw [List.cons_append, paces, paces, ih, run_cons, Nat.add_assoc]

/-- A run without writes past a due conflict uses up one version a call at most. -/
theorem paces_eq_length {r : Registry} {cs : List Call}
    (h : r.Throughout (fun r c => r.overtakes c = false) cs) : r.paces cs = cs.length := by
  induction cs generalizing r with
  | nil => rfl
  | cons c cs ih =>
    have hc : r.overtakes c = false := h [] c cs rfl
    have hcs : (r.after c).Throughout (fun r c => r.overtakes c = false) cs :=
      fun pre d post hd => h (c :: pre) d post (by rw [hd]; rfl)
    rw [paces, ih hcs, pace, hc, List.length_cons]
    simp [Nat.add_comm]

theorem paces_le (r : Registry) (cs : List Call) : r.paces cs ≤ 2 * cs.length := by
  induction cs generalizing r with
  | nil => exact Nat.le_refl 0
  | cons c cs ih =>
    have hc : r.pace c ≤ 2 := by unfold pace; split <;> omega
    have hcs := ih (r.after c)
    rw [paces, List.length_cons]
    omega

theorem throughout_cons {p : Registry → Call → Prop} {r : Registry} {c : Call} {cs : List Call} :
    r.Throughout p (c :: cs) ↔ p r c ∧ (r.after c).Throughout p cs := by
  constructor
  · intro h
    exact ⟨h [] c cs rfl, fun pre d post hd => h (c :: pre) d post (by rw [hd]; rfl)⟩
  · rintro ⟨hc, hcs⟩ pre d post hd
    cases pre with
    | nil =>
      simp only [List.nil_append, List.cons.injEq] at hd
      obtain ⟨rfl, rfl⟩ := hd
      exact hc
    | cons e pre =>
      simp only [List.cons_append, List.cons.injEq] at hd
      obtain ⟨rfl, hd⟩ := hd
      exact hcs pre d post hd

/-! ## Versions grow -/

theorem keyed_after {r : Registry} (hr : r.Keyed) (c : Call) : (r.after c).Keyed := by
  cases c with
  | insert s => exact keyed_insert hr s
  | remove key => exact keyed_remove hr key
  | get key => exact hr
  | update s => exact keyed_update hr s
  | expectConflicts n => exact hr
  | setUnavailable b => exact hr

theorem keyed_run {r : Registry} (hr : r.Keyed) (cs : List Call) : (r.run cs).Keyed := by
  induction cs generalizing r with
  | nil => exact hr
  | cons c cs ih => exact ih (keyed_after hr c)

theorem pace_pos (r : Registry) (c : Call) : 1 ≤ r.pace c := by
  unfold pace
  split <;> omega

theorem pace_update_of_due {r : Registry} {s t : Service} (hdue : r.conflictsDue ≠ 0)
    (h : (r.update s).1 = .ok t) : r.pace (.update s) = 2 := by
  have hok : (r.update s).1.isOk = true := by rw [h]; rfl
  simp [pace, overtakes, hok, hdue]

/-- The version of a service that a write is accepted for is above the stored one, by no more than the
write's pace. -/
theorem toNat_accepted {r : Registry} {n : Nat} (hb : r.Bounded n) {s stored : Service}
    (hn : n + r.pace (.update s) < UInt64.size) (hok : (r.update s).1 = .ok s.advanced)
    (hfound : r.peek? s.key = some stored)
    (hv : s.version = stored.version ∨ r.conflictsDue ≠ 0 ∧ s.version = stored.advanced.version) :
    stored.version.toNat ≤ s.version.toNat ∧ s.advanced.version.toNat = s.version.toNat + 1 ∧
      s.advanced.version.toNat ≤ n + r.pace (.update s) := by
  have hstored := hb _ _ hfound
  rcases hv with hv | ⟨hdue, hv⟩
  · have hpace := r.pace_pos (.update s)
    have hadv : s.advanced.version.toNat = s.version.toNat + 1 :=
      Service.toNat_version_advanced (by rw [hv]; omega)
    rw [hv] at hadv ⊢
    omega
  · have hpace := pace_update_of_due hdue hok
    have hmoved := toNat_advanced_of_bounded hb (by omega) hfound
    have hadv : s.advanced.version.toNat = s.version.toNat + 1 :=
      Service.toNat_version_advanced (by rw [hv]; omega)
    rw [hv] at hadv ⊢
    omega

/-- **No call raises a version by more than its pace.** -/
theorem bounded_after {r : Registry} (hr : r.Keyed) {n : Nat} (hb : r.Bounded n) {c : Call}
    (hn : n + r.pace c < UInt64.size) : (r.after c).Bounded (n + r.pace c) := by
  have hpos := r.pace_pos c
  cases c with
  | insert s => exact bounded_insert hb hn s
  | remove key =>
    intro k t ht
    rw [after, peek?_remove] at ht
    split at ht
    · cases ht
    · have := hb k t ht
      omega
  | get key => exact bounded_same hb (by omega) fun _ => rfl
  | update s =>
    rcases update_cases hr s with ⟨f, -, h⟩ | ⟨f, stored, -, -, hfound, h⟩ | ⟨stored, hok, hfound, hv, h⟩
    · exact bounded_same hb (by omega) h
    · have hmoved := toNat_advanced_of_bounded hb (by omega) hfound
      have hstored := hb _ _ hfound
      exact bounded_put hb (by omega) (by omega) h
    · exact bounded_put hb (by omega) (toNat_accepted hb hn hok hfound hv).2.2 h
  | expectConflicts m => exact bounded_same hb (by omega) fun _ => rfl
  | setUnavailable b => exact bounded_same hb (by omega) fun _ => rfl

theorem bounded_run {r : Registry} (hr : r.Keyed) {n : Nat} (hb : r.Bounded n) (cs : List Call)
    (hn : n + r.paces cs < UInt64.size) : (r.run cs).Bounded (n + r.paces cs) := by
  induction cs generalizing r n with
  | nil => exact hb
  | cons c cs ih =>
    rw [paces, ← Nat.add_assoc] at hn ⊢
    exact ih (keyed_after hr c) (bounded_after hr hb (by omega)) hn

/-- **A service that a call does not remove stays, and its version grows if the call takes effect on
it.** -/
theorem exists_peek?_after {r : Registry} (hr : r.Keyed) {n : Nat} (hb : r.Bounded n) {c : Call}
    (hn : n + r.pace c < UInt64.size) {key : Key} {s : Service} (hs : r.peek? key = some s)
    (hc : r.removes key c = false) :
    ∃ t, (r.after c).peek? key = some t ∧ s.version.toNat ≤ t.version.toNat ∧
      (r.touches key c = true → s.version.toNat < t.version.toNat) := by
  have hpos := r.pace_pos c
  have hsame : ∀ {r' : Registry}, (∀ k, r'.peek? k = r.peek? k) → r.touches key c = false →
      ∃ t, r'.peek? key = some t ∧ s.version.toNat ≤ t.version.toNat ∧
        (r.touches key c = true → s.version.toNat < t.version.toNat) := by
    intro r' h htouch
    exact ⟨s, (h key).trans hs, Nat.le_refl _, fun ht => by rw [htouch] at ht; cases ht⟩
  cases c with
  | insert q =>
    by_cases hk : q.key = key
    · subst hk
      have hlt := (toNat_stamped hb (by omega) q).2 s hs
      exact ⟨r.stamped q, by rw [after, peek?_insert, if_pos rfl], Nat.le_of_lt hlt, fun _ => hlt⟩
    · refine ⟨s, by rw [after, peek?_insert, if_neg hk, hs], Nat.le_refl _, fun ht => ?_⟩
      simp [touches, hk] at ht
  | remove k =>
    have hk : k ≠ key := by
      intro hk
      simp [removes, hk, hs] at hc
    refine ⟨s, by rw [after, peek?_remove, if_neg hk, hs], Nat.le_refl _, fun ht => ?_⟩
    simp [touches, hk] at ht
  | get k => exact hsame (fun _ => rfl) rfl
  | update q =>
    rcases update_cases hr q with ⟨f, hf, h⟩ | ⟨f, stored, hf, -, hfound, h⟩ | ⟨stored, hok, hfound, hv, h⟩
    · exact hsame h (by simp [touches, hf, Except.isOk, Except.toBool])
    · have htouch : r.touches key (.update q) = false := by
        simp [touches, hf, Except.isOk, Except.toBool]
      by_cases hk : q.key = key
      · subst hk
        obtain rfl : stored = s := Option.some.inj (hfound.symm.trans hs)
        have hmoved := toNat_advanced_of_bounded hb (by omega) hfound
        exact ⟨_, by rw [after, h, if_pos rfl], by omega, fun _ => by omega⟩
      · exact ⟨s, by rw [after, h, if_neg hk, hs], Nat.le_refl _, fun ht => by
          rw [htouch] at ht; cases ht⟩
    · by_cases hk : q.key = key
      · subst hk
        obtain rfl : stored = s := Option.some.inj (hfound.symm.trans hs)
        obtain ⟨hle, hadv, -⟩ := toNat_accepted hb hn hok hfound hv
        exact ⟨q.advanced, by rw [after, h, if_pos rfl], by omega, fun _ => by omega⟩
      · refine ⟨s, by rw [after, h, if_neg hk, hs], Nat.le_refl _, fun ht => ?_⟩
        simp [touches, hk] at ht
  | expectConflicts m => exact hsame (fun _ => rfl) rfl
  | setUnavailable b => exact hsame (fun _ => rfl) rfl

/-- **A service that a run does not remove stays, and if its version is still the same nothing took effect
on it.** -/
theorem exists_peek?_run {r : Registry} (hr : r.Keyed) {n : Nat} (hb : r.Bounded n) {cs : List Call}
    (hn : n + r.paces cs < UInt64.size) {key : Key} {s : Service} (hs : r.peek? key = some s)
    (h : r.NotRemoved key cs) :
    ∃ t, (r.run cs).peek? key = some t ∧ s.version.toNat ≤ t.version.toNat ∧
      (t.version.toNat ≤ s.version.toNat → r.Untouched key cs) := by
  induction cs generalizing r n s with
  | nil => exact ⟨s, hs, Nat.le_refl _, fun _ pre c post hc => by cases pre <;> cases hc⟩
  | cons c cs ih =>
    rw [NotRemoved, throughout_cons] at h
    rw [paces, ← Nat.add_assoc] at hn
    obtain ⟨t, ht, hle, hlt⟩ := exists_peek?_after hr hb (by omega) hs h.1
    obtain ⟨u, hu, htu, hun⟩ := ih (keyed_after hr c) (bounded_after hr hb (by omega)) hn ht h.2
    refine ⟨u, hu, Nat.le_trans hle htu, fun hus => ?_⟩
    rw [Untouched, throughout_cons]
    refine ⟨?_, hun (by omega)⟩
    cases htouch : r.touches key c with
    | false => rfl
    | true =>
      have := hlt htouch
      omega

/-! ## A copy and the write made from it -/

/-- A call that returns a copy leaves it stored. -/
theorem peek?_after_of_copy? {r : Registry} (hr : r.Keyed) {c : Call} {copy : Service}
    (h : r.copy? c = some copy) : (r.after c).peek? copy.key = some copy := by
  cases c with
  | insert s =>
    simp only [copy?, Option.some.injEq] at h
    subst h
    rw [after, peek?_insert, key_stamped, if_pos rfl]
  | get key =>
    cases hg : r.get key with
    | error f => rw [copy?, hg] at h; cases h
    | ok s =>
      obtain rfl : s = copy := by simpa [copy?, hg, Except.toOption] using h
      have hs := (get_eq_ok_iff.1 hg).2
      rw [after, hr key s hs, hs]
  | update s =>
    cases hu : (r.update s).1 with
    | error f => rw [copy?, hu] at h; cases h
    | ok t =>
      obtain rfl : t = copy := by simpa [copy?, hu, Except.toOption] using h
      obtain ⟨stored, rfl, -, -, hk⟩ := update_eq_ok hr hu
      rw [after, hk, Service.key_advanced, if_pos rfl]
  | remove key => cases h
  | expectConflicts n => cases h
  | setUnavailable b => cases h

theorem removes_eq_false_of_touches {r : Registry} {key : Key} {c : Call}
    (h : r.touches key c = false) : r.removes key c = false := by
  cases c <;> first | exact h | rfl

/-- A write that carries the version of a copy is accepted after a run that did not remove the service only
if nothing took effect on it. -/
theorem untouched_of_accepted {r : Registry} (hr : r.Keyed) {n : Nat} (hb : r.Bounded n)
    {cs : List Call} {copy q : Service} (hcopy : r.peek? copy.key = some copy)
    (hroom : n + r.paces (cs ++ [.update q]) < UInt64.size) (hkey : q.key = copy.key)
    (hversion : q.version = copy.version) (haccepted : ((r.run cs).update q).1.isOk = true)
    (h : r.NotRemoved copy.key cs) : r.Untouched copy.key cs := by
  rw [paces_append, paces, paces, Nat.add_zero, ← Nat.add_assoc] at hroom
  have hlast : (r.run cs).Keyed := keyed_run hr cs
  have hbound := bounded_run hr hb cs (by omega)
  obtain ⟨t, ht, -, huntouched⟩ := exists_peek?_run hr hb (by omega) hcopy h
  cases hu : ((r.run cs).update q).1 with
  | error f => rw [hu] at haccepted; cases haccepted
  | ok u =>
    obtain ⟨stored, rfl, hfound, hv, -⟩ := update_eq_ok hlast hu
    obtain rfl : stored = t := by
      rw [hkey] at hfound
      exact Option.some.inj (hfound.symm.trans ht)
    have hq := (toNat_accepted hbound hroom hu hfound hv).1
    rw [hversion] at hq
    exact huntouched hq

/-- **No lost update, short of a removal.**  Between the return of a copy and an accepted write that is made
from it, nothing took effect on the service exactly if it was not removed.  The run may be any run in
which versions do not come full circle. -/
theorem untouched_iff_not_removed {before between : List Call} {c : Call} {copy q : Service}
    (hroom : empty.paces (before ++ c :: (between ++ [.update q])) < UInt64.size)
    (hcopy : (empty.run before).copy? c = some copy) (hkey : q.key = copy.key)
    (hversion : q.version = copy.version)
    (haccepted : ((empty.run (before ++ c :: between)).update q).1.isOk = true) :
    (empty.run (before ++ [c])).Untouched copy.key between ↔
      (empty.run (before ++ [c])).NotRemoved copy.key between := by
  constructor
  · intro h pre d post hd
    exact removes_eq_false_of_touches (h pre d post hd)
  · intro h
    have hr : (empty.run before).Keyed := keyed_run keyed_empty before
    have hstart : empty.run (before ++ [c]) = (empty.run before).after c := run_append empty before [c]
    rw [run_append, run_cons] at haccepted
    rw [paces_append, paces, ← Nat.add_assoc, ← Nat.zero_add (empty.paces before)] at hroom
    have hb := bounded_run keyed_empty bounded_empty before (by omega)
    rw [hstart] at h ⊢
    exact untouched_of_accepted (keyed_after hr c) (bounded_after hr hb (by omega))
      (peek?_after_of_copy? hr hcopy) hroom hkey hversion haccepted h

/-- A copy is read, other services come and go, and the copy is written back. -/
theorem untouched_iff_not_removed_after_get :
    let web : Service := ⟨"default", "web", "", ∅, none, 0, ⟨[]⟩⟩
    let copy : Service := { web with version := 1 }
    let before : List Call := [.insert web]
    let between : List Call := [.insert { web with name := "db" }, .remove ⟨"default", "db"⟩]
    (empty.run before).copy? (.get web.key) = some copy ∧
      ((empty.run (before ++ .get web.key :: between)).update copy).1.isOk = true ∧
      ((empty.run (before ++ [.get web.key])).Untouched web.key between ↔
        (empty.run (before ++ [.get web.key])).NotRemoved web.key between) :=
  ⟨by decide +kernel, by decide +kernel,
    @untouched_iff_not_removed _ _ _ ⟨"default", "web", "", ∅, none, 1, ⟨[]⟩⟩
      ⟨"default", "web", "", ∅, none, 1, ⟨[]⟩⟩ (by decide +kernel) (by decide +kernel) rfl rfl
      (by decide +kernel)⟩

/-- **A removed service that came back can be overwritten from a copy of the old one**, which was written
since the copy was read: the versions start again at one. -/
theorem stale_write_accepted_after_return :
    let web : Service := ⟨"default", "web", "first", ∅, none, 0, ⟨[]⟩⟩
    let copy : Service := { web with version := 1 }
    let between : List Call :=
      [.update copy, .remove web.key, .insert { web with uid := "second" }]
    empty.copy? (.insert web) = some copy ∧
      ((empty.run (.insert web :: between)).update copy).1.isOk = true ∧
      (empty.run [.insert web]).touches web.key (.update copy) = true := by
  decide +kernel

end Allotment.Registry
