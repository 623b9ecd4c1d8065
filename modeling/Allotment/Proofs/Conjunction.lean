import Mathlib.Logic.Relation
import Allotment.Proofs.Text
import Allotment.Service.Selector
/-!
# Selectors as conjunctions

A selector says what its terms say, all at once.  Each term between two commas states at
most one condition (`Selector.ofTerm`), so a text is read term by term (`ofText_eq_flatMap`)
and two texts with a comma between them state the conditions of both (`ofText_append`).
How the terms are arranged and spaced is of no account: every change of this kind is one of
five (`Selector.Retouch`), and none of them changes whether the conditions hold
(`holds_of_retouch`).
-/
namespace Allotment

open Text

theorem SelectorTerm.holds_insert {labels : TextMap} {label : String} (h : labels[label]? = none)
    (value : String) (c : SelectorTerm) (hc : c.holds labels = true) :
    c.holds (labels.insert label value) = true := by
  cases c with
  | equals l v =>
    simp only [holds, beq_iff_eq] at hc ⊢
    have hne : label ≠ l := by
      rintro rfl
      rw [h] at hc
      cases hc
    rw [Std.ExtTreeMap.getElem?_insert]
    simp [hne, hc]
  | present l =>
    simp only [holds] at hc ⊢
    rw [Std.ExtTreeMap.contains_insert, hc, Bool.or_true]

namespace Selector

theorem holds_append (q q' : Selector) (labels : TextMap) :
    Selector.holds (q ++ q') labels = (q.holds labels && q'.holds labels) := by
  simp [holds]

/-- Conditions hold together if each of them does, however often and in which order they are stated. -/
theorem holds_congr {q q' : Selector} (h : ∀ c, c ∈ q ↔ c ∈ q') (labels : TextMap) :
    q.holds labels = q'.holds labels := by
  rw [Bool.eq_iff_iff]
  simp [holds, h]

/-! ## One term -/

/-- The condition that one term states; a blank term states none. -/
def ofTerm (p : List Char) : Selector := if (trim p).isEmpty then [] else [.ofChars (trim p)]

theorem ofTerm_of_trim {p p' : List Char} (h : trim p = trim p') : ofTerm p = ofTerm p' := by
  unfold ofTerm; rw [h]

theorem ofTerm_of_blank {p : List Char} (h : ∀ c ∈ p, isBlank c = true) : ofTerm p = [] := by
  simp [ofTerm, trim_of_blank h]

/-- **A term is cut at its first equals sign**, and blanks around either side are dropped. -/
theorem ofTerm_equals {a : List Char} (h : '=' ∉ a) (b : List Char) :
    ofTerm (a ++ '=' :: b) = [.equals (String.ofList (trim a)) (String.ofList (trim b))] := by
  have hstart : '=' ∉ trimStart a := fun hmem => h (mem_of_mem_trimStart hmem)
  have htrim : trim (a ++ '=' :: b) = trimStart a ++ '=' :: trimEnd b := trim_append_cons (by decide) a b
  simp [ofTerm, htrim, SelectorTerm.ofChars, cut?_append hstart, trim_trimStart, trim_trimEnd]

theorem ofTerm_present {p : List Char} (h : '=' ∉ p) (hp : trim p ≠ []) :
    ofTerm p = [.present (String.ofList (trim p))] := by
  have hcut : cut? '=' (trim p) = none := cut?_eq_none_iff.2 fun hmem => h (mem_of_mem_trim hmem)
  simp [ofTerm, hp, SelectorTerm.ofChars, hcut]

/-! ## All terms -/

/-- The terms of a selector's text: what stands between its commas. -/
def terms (s : String) : List (List Char) := pieces ',' s.toList

theorem ofText_eq_flatMap (s : String) : ofText s = (terms s).flatMap ofTerm := by
  unfold ofText terms
  induction pieces ',' s.toList with
  | nil => rfl
  | cons p ps ih =>
    rw [List.flatMap_cons, ← ih]
    by_cases hp : trim p = [] <;> simp [ofTerm, hp]

theorem terms_append (s t : String) : terms (s ++ "," ++ t) = terms s ++ terms t := by
  have hlist : (s ++ "," ++ t).toList = s.toList ++ ',' :: t.toList := by simp
  rw [terms, hlist, pieces_append_sep]
  rfl

theorem terms_of_not_mem {s : String} (h : ',' ∉ s.toList) : terms s = [s.toList] := pieces_of_not_mem h

/-- **Two texts with a comma between them state the conditions of both.** -/
theorem ofText_append (s t : String) : ofText (s ++ "," ++ t) = ofText s ++ ofText t := by
  rw [ofText_eq_flatMap, ofText_eq_flatMap, ofText_eq_flatMap, terms_append, List.flatMap_append]

/-! ## The same said otherwise -/

/-- A change in the terms of a selector that is of no account. -/
inductive Retouch : List (List Char) → List (List Char) → Prop where
  /-- Two neighbours change places. -/
  | swap (before after : List (List Char)) (p q : List Char) :
      Retouch (before ++ p :: q :: after) (before ++ q :: p :: after)
  /-- A term is said once more. -/
  | again {before after : List (List Char)} {p : List Char} : p ∈ before ++ after →
      Retouch (before ++ after) (before ++ p :: after)
  /-- A term is added that holds nothing but blanks. -/
  | blank {before after : List (List Char)} {p : List Char} : (∀ c ∈ p, isBlank c = true) →
      Retouch (before ++ after) (before ++ p :: after)
  /-- A term gets blanks around it. -/
  | pad {before after : List (List Char)} {w w' : List Char} (p : List Char) : (∀ c ∈ w, isBlank c = true) →
      (∀ c ∈ w', isBlank c = true) → Retouch (before ++ p :: after) (before ++ (w ++ p ++ w') :: after)
  /-- A term gets blanks around its first equals sign. -/
  | space {before after : List (List Char)} {w w' a : List Char} (b : List Char) : '=' ∉ a →
      (∀ c ∈ w, isBlank c = true) → (∀ c ∈ w', isBlank c = true) →
      Retouch (before ++ (a ++ '=' :: b) :: after) (before ++ (a ++ w ++ '=' :: (w' ++ b)) :: after)

/-- Whether one text comes from another by changes of no account, made or undone. -/
def Rewords (s s' : String) : Prop := Relation.EqvGen Retouch (terms s) (terms s')

theorem ofTerm_padded {w w' : List Char} (hw : ∀ c ∈ w, isBlank c = true)
    (hw' : ∀ c ∈ w', isBlank c = true) (p : List Char) : ofTerm (w ++ p ++ w') = ofTerm p :=
  ofTerm_of_trim (trim_padded hw hw' p)

theorem ofTerm_spaced {w w' a : List Char} (ha : '=' ∉ a) (hw : ∀ c ∈ w, isBlank c = true)
    (hw' : ∀ c ∈ w', isBlank c = true) (b : List Char) :
    ofTerm (a ++ w ++ '=' :: (w' ++ b)) = ofTerm (a ++ '=' :: b) := by
  have haw : '=' ∉ a ++ w := by
    intro hmem
    rcases List.mem_append.1 hmem with hmem | hmem
    · exact ha hmem
    · exact absurd (hw _ hmem) (by decide)
  rw [ofTerm_equals haw, ofTerm_equals ha, trim_append_of_blank hw, trim_blank_append hw']

/-- **No change of no account is noticed**, whatever the labels. -/
theorem holds_of_retouch {ps qs : List (List Char)} (h : Retouch ps qs) (labels : TextMap) :
    Selector.holds (ps.flatMap ofTerm) labels = Selector.holds (qs.flatMap ofTerm) labels := by
  refine holds_congr (fun c => ?_) labels
  cases h with
  | swap before after p q =>
    simp only [List.flatMap_append, List.flatMap_cons, List.mem_append]
    exact or_congr_right or_left_comm
  | @again before after p hp =>
    -- what the new term states is stated by the old one already
    have hold : c ∈ ofTerm p → c ∈ (before ++ after).flatMap ofTerm := fun hc => List.mem_flatMap.2 ⟨p, hp, hc⟩
    simp only [List.flatMap_append, List.flatMap_cons, List.mem_append] at hold ⊢
    constructor
    · rintro (hc | hc)
      · exact .inl hc
      · exact .inr (.inr hc)
    · rintro (hc | hc | hc)
      · exact .inl hc
      · exact hold hc
      · exact .inr hc
  | blank hp => simp [ofTerm_of_blank hp]
  | pad p hw hw' => simp only [List.flatMap_append, List.flatMap_cons, ofTerm_padded hw hw']
  | space b ha hw hw' => simp only [List.flatMap_append, List.flatMap_cons, ofTerm_spaced ha hw hw']

theorem holds_of_rewords {s s' : String} (h : Rewords s s') (labels : TextMap) :
    (ofText s).holds labels = (ofText s').holds labels := by
  rw [ofText_eq_flatMap, ofText_eq_flatMap]
  unfold Rewords at h
  generalize terms s = ps at h ⊢
  generalize terms s' = qs at h ⊢
  induction h with
  | rel _ _ h => exact holds_of_retouch h labels
  | refl _ => rfl
  | symm _ _ _ ih => exact ih.symm
  | trans _ _ _ _ _ ih ih' => exact ih.trans ih'

end Selector

/-- **Selectors are conjunctions.**  A text selects a service if every term between its commas does: a term
with an equals sign if the label of that key has that value, a bare term if the service has the label, a
blank term always.  So neither the order of the terms nor their repetition counts, nor a blank term, nor
blanks around a term or around its first equals sign; and a service that is selected stays so when it gets
a label under a key it did not have. -/
theorem Service.selectedBy_conjunction (r : Service) :
    (∀ s t : String, r.selectedBy (s ++ "," ++ t) = (r.selectedBy s && r.selectedBy t)) ∧
    (∀ label value : String, ',' ∉ label.toList → ',' ∉ value.toList → '=' ∉ label.toList →
      r.selectedBy (label ++ "=" ++ value) = (r.labels[trimmed label]? == some (trimmed value))) ∧
    (∀ label : String, ',' ∉ label.toList → '=' ∉ label.toList →
      r.selectedBy label = ((trimmed label).isEmpty || r.labels.contains (trimmed label))) ∧
    (∀ s s' : String, Selector.Rewords s s' → r.selectedBy s = r.selectedBy s') ∧
    ∀ label value s : String, r.labels[label]? = none → r.selectedBy s = true →
      Service.selectedBy { r with labels := r.labels.insert label value } s = true := by
  refine ⟨fun s t => ?_, fun label value hlabel hvalue hequals => ?_, fun label hlabel hequals => ?_,
    fun s s' h => Selector.holds_of_rewords h r.labels, fun label value s hnew hs => ?_⟩
  · unfold Service.selectedBy
    rw [Selector.ofText_append, Selector.holds_append]
  · have hlist : (label ++ "=" ++ value).toList = label.toList ++ '=' :: value.toList := by simp
    have hcomma : ',' ∉ (label ++ "=" ++ value).toList := by simp [hlist, hlabel, hvalue]
    rw [Service.selectedBy, Selector.ofText_eq_flatMap, Selector.terms_of_not_mem hcomma, hlist]
    simp [Selector.ofTerm_equals hequals, Selector.holds, SelectorTerm.holds, trimmed]
  · rw [Service.selectedBy, Selector.ofText_eq_flatMap, Selector.terms_of_not_mem hlabel]
    by_cases hblank : trim label.toList = []
    · simp [Selector.ofTerm, Selector.holds, trimmed, hblank]
    · simp [Selector.ofTerm_present hequals hblank, Selector.holds, SelectorTerm.holds, trimmed, hblank]
  · simp only [Service.selectedBy, Selector.holds, List.all_eq_true] at hs ⊢
    exact fun c hc => c.holds_insert hnew value (hs c hc)

/-- Two terms in the other order, one of them spaced out, and an empty one. -/
theorem Service.selectedBy_conjunction_reworded :
    let r : Service := ⟨"default", "web", "", .ofList [("app", "web"), ("tier", "front")], none, 1, ⟨[]⟩⟩
    Selector.Rewords "app=web,tier" "tier, app = web," ∧
      r.selectedBy "tier, app = web," = r.selectedBy "app=web,tier" ∧ r.selectedBy "app=web,tier" = true ∧
      r.labels["zone"]? = none ∧
      Service.selectedBy { r with labels := r.labels.insert "zone" "b" } "app=web,tier" = true := by
  intro r
  have hblanks : ∀ c ∈ [' '], isBlank c = true := List.forall_mem_singleton.2 (by decide)
  have hspace : Selector.Retouch ["app=web".toList, "tier".toList] ["app = web".toList, "tier".toList] :=
    @Selector.Retouch.space [] ["tier".toList] [' '] [' '] "app".toList "web".toList (by decide) hblanks
      hblanks
  have hpad : Selector.Retouch ["app = web".toList, "tier".toList] [" app = web".toList, "tier".toList] :=
    @Selector.Retouch.pad [] ["tier".toList] [' '] [] "app = web".toList hblanks nofun
  have hswap : Selector.Retouch [" app = web".toList, "tier".toList] ["tier".toList, " app = web".toList] :=
    .swap [] [] " app = web".toList "tier".toList
  have hblank : Selector.Retouch ["tier".toList, " app = web".toList]
      ["tier".toList, " app = web".toList, []] :=
    @Selector.Retouch.blank ["tier".toList, " app = web".toList] [] [] nofun
  have hrewords : Selector.Rewords "app=web,tier" "tier, app = web," := by
    have hterms : Selector.terms "app=web,tier" = ["app=web".toList, "tier".toList] ∧
        Selector.terms "tier, app = web," = ["tier".toList, " app = web".toList, []] := by decide
    rw [Selector.Rewords, hterms.1, hterms.2]
    exact (((Relation.EqvGen.rel _ _ hspace).trans _ _ _ (.rel _ _ hpad)).trans _ _ _ (.rel _ _ hswap)).trans
      _ _ _ (.rel _ _ hblank)
  obtain ⟨-, -, -, hsame, hmore⟩ := r.selectedBy_conjunction
  have hselected : r.selectedBy "app=web,tier" = true := by decide +kernel
  have hnew : r.labels["zone"]? = none := by decide +kernel
  exact ⟨hrewords, (hsame _ _ hrewords).symm, hselected, hnew, hmore "zone" "b" _ hnew hselected⟩

end Allotment
