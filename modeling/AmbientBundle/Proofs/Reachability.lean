import Mathlib.Logic.Relation
import AmbientBundle.Bundle.Aggregate
import AmbientBundle.Proofs.Declarations
import AmbientBundle.Proofs.Report

/-!
# Reachable modules

A declared module *refers* to a declared module if its text names it, and *reaches*
what any number of such steps leads to.  The graph is arbitrary: it may have cycles,
a module may refer to itself or to the same module twice, and it may name modules
that are not declared.

`visit` works through a list of waiting modules.  `Explored` is its invariant: what
was recorded and what waits is reachable, and whatever a recorded module refers to
has been recorded or waits.  Skipping and recording keep it, so at the end, when
nothing waits, the recorded modules are closed under references and hence are all
that the entry reaches.
-/

namespace AmbientBundle
namespace Shake

/-! ## The graph -/

/-- A declared module whose text names another declared module. -/
def Refers (d : Declarations) (policy : ShakePolicy) (m r : ModuleId) : Prop :=
  ∃ body, d.find? m = some body ∧ r ∈ Import.references body policy ∧ r ∈ d.ids

/-- Any number of references, one after the other. -/
def Reaches (d : Declarations) (policy : ShakePolicy) : ModuleId → ModuleId → Prop :=
  Relation.ReflTransGen (Refers d policy)

/-- What a declared module reaches is declared. -/
theorem Reaches.mem_ids {d : Declarations} {policy : ShakePolicy} {m r : ModuleId}
    (h : Reaches d policy m r) (hm : m ∈ d.ids) : r ∈ d.ids := by
  induction h with
  | refl => exact hm
  | tail _ hstep _ =>
    obtain ⟨_, _, _, hr⟩ := hstep
    exact hr

/-- A set of modules that is closed under references holds what its members reach. -/
theorem Reaches.mem_of_closed {d : Declarations} {policy : ShakePolicy} {ms : List ModuleId}
    (hclosed : ∀ m ∈ ms, ∀ r, Refers d policy m r → r ∈ ms) {m r : ModuleId}
    (h : Reaches d policy m r) (hm : m ∈ ms) : r ∈ ms := by
  induction h with
  | refl => exact hm
  | tail _ hstep ih => exact hclosed _ ih _ hstep

/-! ## The invariant of the walk -/

/-- What holds of the recorded and the waiting modules throughout a walk from an entry. -/
structure Explored (d : Declarations) (policy : ShakePolicy) (entry : ModuleId)
    (seen waiting : List ModuleId) : Prop where
  /-- No module is recorded twice. -/
  nodup : seen.Nodup
  /-- The entry comes first. -/
  first : (seen ++ waiting).head? = some entry
  /-- Everything recorded or waiting can be reached. -/
  sound : ∀ m ∈ seen ++ waiting, Reaches d policy entry m
  /-- Everything a recorded module refers to is recorded or waits. -/
  closed : ∀ m ∈ seen, ∀ r, Refers d policy m r → r ∈ seen ∨ r ∈ waiting

namespace Explored

variable {d : Declarations} {policy : ShakePolicy} {entry m : ModuleId} {body : Text}
  {seen waiting : List ModuleId}

/-- At the start the entry waits. -/
theorem start (d : Declarations) (policy : ShakePolicy) (entry : ModuleId) :
    Explored d policy entry [] [entry] where
  nodup := List.nodup_nil
  first := rfl
  sound := by
    intro m hm
    rw [List.nil_append, List.mem_singleton] at hm
    subst hm
    exact Relation.ReflTransGen.refl
  closed := by
    intro m hm
    cases hm

/-- A module that was recorded can be skipped. -/
theorem skip (h : Explored d policy entry seen (m :: waiting)) (hm : m ∈ seen) :
    Explored d policy entry seen waiting where
  nodup := h.nodup
  first := by
    have hfirst := h.first
    cases seen with
    | nil => cases hm
    | cons k rest => exact hfirst
  sound := by
    intro k hk
    refine h.sound k ?_
    rcases List.mem_append.1 hk with hk | hk
    · exact List.mem_append_left _ hk
    · exact List.mem_append_right _ (List.mem_cons_of_mem _ hk)
  closed := by
    intro k hk r hr
    rcases h.closed k hk r hr with hseen | hwaits
    · exact Or.inl hseen
    · rcases List.mem_cons.1 hwaits with rfl | hwaits
      · exact Or.inl hm
      · exact Or.inr hwaits

/-- The references of a module that still have to be visited once it is recorded. -/
def next (d : Declarations) (policy : ShakePolicy) (seen : List ModuleId) (body : Text) :
    List ModuleId :=
  (Import.references body policy).filter fun r => !seen.contains r && d.contains r

theorem mem_next {r : ModuleId} :
    r ∈ next d policy seen body ↔
      r ∈ Import.references body policy ∧ r ∉ seen ∧ r ∈ d.ids := by
  simp [next]

/-- A module is recorded and its references wait before all others. -/
theorem record (h : Explored d policy entry seen (m :: waiting)) (hm : m ∉ seen)
    (hbody : d.find? m = some body) :
    Explored d policy entry (seen ++ [m]) (next d policy (seen ++ [m]) body ++ waiting) where
  nodup := by
    rw [List.nodup_append]
    refine ⟨h.nodup, List.pairwise_singleton _ m, ?_⟩
    rintro k hk _ hm' rfl
    rw [List.mem_singleton] at hm'
    subst hm'
    exact hm hk
  first := by
    have hfirst := h.first
    cases seen with
    | nil => exact hfirst
    | cons k rest => exact hfirst
  sound := by
    have hreach : Reaches d policy entry m := h.sound m (by simp)
    intro k hk
    simp only [List.mem_append, List.mem_singleton] at hk
    rcases hk with (hk | rfl) | hk | hk
    · exact h.sound k (List.mem_append_left _ hk)
    · exact hreach
    · obtain ⟨href, _, hids⟩ := mem_next.1 hk
      exact hreach.tail ⟨body, hbody, href, hids⟩
    · exact h.sound k (List.mem_append_right _ (List.mem_cons_of_mem _ hk))
  closed := by
    intro k hk r hr
    by_cases hseen : r ∈ seen ++ [m]
    · exact Or.inl hseen
    right
    rcases List.mem_append.1 hk with hk | hk
    · -- An older module: its reference waited before, and was not the one just recorded.
      rcases h.closed k hk r hr with hold | hwaits
      · exact absurd (List.mem_append_left _ hold) hseen
      · rcases List.mem_cons.1 hwaits with rfl | hwaits
        · exact absurd (by simp) hseen
        · exact List.mem_append_right _ hwaits
    · rw [List.mem_singleton] at hk
      subst hk
      obtain ⟨body', hbody', href, hids⟩ := hr
      rw [hbody, Option.some.injEq] at hbody'
      subst hbody'
      exact List.mem_append_left _ (mem_next.2 ⟨href, hseen, hids⟩)

/-- Only declared modules wait. -/
theorem find?_waiting (hentry : entry ∈ d.ids) (h : Explored d policy entry seen (m :: waiting)) :
    ∃ body, d.find? m = some body :=
  Declarations.exists_find?_of_mem_ids ((h.sound m (by simp)).mem_ids hentry)

/-- The walk keeps the invariant until nothing waits. -/
theorem visit (hentry : entry ∈ d.ids) (h : Explored d policy entry seen waiting) :
    Explored d policy entry (Shake.visit d policy seen waiting) [] := by
  fun_induction Shake.visit d policy seen waiting with
  | case1 seen => exact h
  | case2 seen m waiting hm ih => exact ih (h.skip hm)
  | case3 seen m waiting hm hbody ih =>
    obtain ⟨body, hsome⟩ := h.find?_waiting hentry
    rw [hbody] at hsome
    cases hsome
  | case4 seen m waiting hm body hbody seen' next ih => exact ih (h.record hm hbody)

/-- Once nothing waits, the recorded modules are those that can be reached. -/
theorem mem_iff (h : Explored d policy entry seen []) : m ∈ seen ↔ Reaches d policy entry m := by
  constructor
  · intro hm
    exact h.sound m (List.mem_append_left _ hm)
  · intro hm
    have hclosed : ∀ k ∈ seen, ∀ r, Refers d policy k r → r ∈ seen := by
      intro k hk r hr
      exact (h.closed k hk r hr).resolve_right List.not_mem_nil
    have hentry : entry ∈ seen := by
      have hfirst := h.first
      rw [List.append_nil] at hfirst
      exact List.mem_of_mem_head? hfirst
    exact hm.mem_of_closed hclosed hentry

/-- Only declared modules are recorded. -/
theorem subset_ids (hentry : entry ∈ d.ids) (h : Explored d policy entry seen waiting) :
    seen ⊆ d.ids :=
  fun m hm => (h.sound m (List.mem_append_left _ hm)).mem_ids hentry

end Explored

/-! ## One module of a walk -/

section

variable {d : Declarations} {policy : ShakePolicy} {m : ModuleId} {body : Text}
  {seen waiting next : List ModuleId}

theorem visit_of_mem (hm : m ∈ seen) :
    visit d policy seen (m :: waiting) = visit d policy seen waiting := by
  rw [visit, dif_pos hm]

theorem visit_of_new (hm : m ∉ seen) (hbody : d.find? m = some body)
    (hnext : Explored.next d policy (seen ++ [m]) body ++ waiting = next) :
    visit d policy seen (m :: waiting) = visit d policy (seen ++ [m]) next := by
  rw [visit, dif_neg hm]
  split
  · next hnone =>
    rw [hbody] at hnone
    cases hnone
  · next body' hsome =>
    rw [hbody, Option.some.injEq] at hsome
    subst hsome hnext
    rfl

end

/-! ## What shaking keeps -/

/-- With an entry that is declared the walk gives an answer. -/
theorem reachable_of_mem {d : Declarations} {entry : ModuleId} {policy : ShakePolicy}
    (hp : policy ≠ .off) (h : entry ∈ d.ids) :
    reachable d entry policy = some (visit d policy [] [entry]) := by
  rw [reachable, if_pos (Declarations.contains_iff.2 h)]
  exact hp

/-- The answer is what a walk explores in full. -/
theorem exists_reachable {d : Declarations} {entry : ModuleId} {policy : ShakePolicy}
    (hp : policy ≠ .off) (h : entry ∈ d.ids) :
    ∃ ms, reachable d entry policy = some ms ∧ Explored d policy entry ms [] :=
  ⟨_, reachable_of_mem hp h, (Explored.start d policy entry).visit h⟩

/-- Without it there is none. -/
theorem reachable_of_not_mem {d : Declarations} {entry : ModuleId} {policy : ShakePolicy}
    (hp : policy ≠ .off) (h : entry ∉ d.ids) : reachable d entry policy = none := by
  have hno : ¬ d.contains entry = true := fun hc => h (Declarations.contains_iff.1 hc)
  rw [reachable, if_neg hno]
  exact hp

end Shake

namespace Bundle.Aggregator

open Shake (Refers Reaches Explored reachable)

theorem gives_reportSkipped (v : Voice) (rs : List ModuleId) :
    (reportSkipped v rs).Gives (.ok ()) := by
  induction rs with
  | nil => exact .pure ()
  | cons r rest ih => exact (Action.Gives.say v _ _).bind ih

theorem gives_reportVisits (v : Voice) (d : Declarations) (policy : ShakePolicy)
    (ms : List ModuleId) : (reportVisits v d policy ms).Gives (.ok ()) := by
  induction ms with
  | nil => exact .pure ()
  | cons m rest ih => exact (Action.Gives.say v _ _).bind ((gives_reportSkipped v _).bind ih)

/-- The modules that a walk finds are given, with reports about them. -/
theorem gives_reach_of_some (v : Voice) {d : Declarations} {entry : ModuleId}
    {policy : ShakePolicy} {ms : List ModuleId} (h : reachable d entry policy = some ms) :
    (reach v d entry policy).Gives (.ok ms) := by
  unfold reach
  rw [h]
  by_cases hp : policy = .off
  · subst hp
    exact .pure ms
  · simp only [ne_eq, hp, not_false_eq_true, if_true]
    exact (gives_reportVisits v d policy ms).bind (.pure ms)

/-- Without an answer the entry is at fault. -/
theorem gives_reach_of_none (v : Voice) {d : Declarations} {entry : ModuleId}
    {policy : ShakePolicy} (h : reachable d entry policy = none) :
    (reach v d entry policy).Gives (.error (.unknownEntry entry)) := by
  unfold reach
  rw [h]
  exact .throw _

/-- Shaking selects the modules that were found. -/
theorem gives_shake_of_some (a : Aggregator) {d : Declarations} {entry : ModuleId}
    {ms : List ModuleId} (hp : a.options.shake ≠ .off)
    (h : reachable d entry a.options.shake = some ms) :
    (a.shake d entry).Gives (.ok (d.select ms)) := by
  unfold shake
  simp only [hp, if_false]
  refine (Action.Gives.say _ _ _).bind ((gives_reach_of_some a.voice h).bind ?_)
  split
  · exact (Action.Gives.say _ _ _).bind (.pure _)
  · exact .pure _

/-- Shaking fails where the entry is at fault. -/
theorem gives_shake_of_none (a : Aggregator) {d : Declarations} {entry : ModuleId}
    (hp : a.options.shake ≠ .off) (h : reachable d entry a.options.shake = none) :
    (a.shake d entry).Gives (.error (.unknownEntry entry)) := by
  unfold shake
  simp only [hp, if_false]
  exact (Action.Gives.say _ _ _).bind (gives_reach_of_none a.voice h).bind_error

/-- Shaking a bundle keeps the modules that the entry reaches, all of them and no other, each
once, the entry first and with the texts they had.  So whatever a kept module refers to is kept
if it is declared.  An entry that is not declared is at fault. -/
theorem shake_keeps_reachable (a : Aggregator) (d : Declarations) (entry : ModuleId)
    (s : Session) (hp : a.options.shake ≠ .off) :
    (entry ∈ d.ids →
      ∃ ms kept s',
        reachable d entry a.options.shake = some ms ∧
        ms.Nodup ∧ ms.head? = some entry ∧
        (∀ m, m ∈ ms ↔ m ∈ d.ids ∧ Reaches d a.options.shake entry m) ∧
        (a.shake d entry).outcome s = (.ok kept, s') ∧
        kept.ids = ms ∧ (∀ m ∈ ms, kept.find? m = d.find? m) ∧
        ∀ m body, kept.find? m = some body →
          ∀ r ∈ Import.references body a.options.shake, r ∈ d.ids → r ∈ kept.ids) ∧
    (entry ∉ d.ids →
      reachable d entry a.options.shake = none ∧
        ∃ s', (a.shake d entry).outcome s = (.error (.unknownEntry entry), s')) := by
  constructor
  · intro hentry
    have hreach := Shake.reachable_of_mem hp hentry
    have hfull := (Explored.start d a.options.shake entry).visit hentry
    generalize Shake.visit d a.options.shake [] [entry] = ms at hreach hfull
    have hids : ∀ m ∈ ms, m ∈ d.ids := fun m hm => (hfull.mem_iff.1 hm).mem_ids hentry
    have hkept := Declarations.ids_select hfull.nodup hids
    obtain ⟨s', hrun, _⟩ := gives_shake_of_some a hp hreach s
    refine ⟨ms, d.select ms, s', hreach, hfull.nodup, ?_, ?_, hrun, hkept, ?_, ?_⟩
    · have hfirst := hfull.first
      rwa [List.append_nil] at hfirst
    · intro m
      exact ⟨fun hm => ⟨hids m hm, hfull.mem_iff.1 hm⟩, fun hm => hfull.mem_iff.2 hm.2⟩
    · intro m hm
      exact Declarations.find?_select hfull.nodup hids hm
    · intro m body hbody r href hr
      rw [hkept]
      have hm : m ∈ ms := by
        rw [← hkept]
        exact Declarations.mem_ids_of_find? hbody
      rw [Declarations.find?_select hfull.nodup hids hm] at hbody
      exact hfull.mem_iff.2 ((hfull.mem_iff.1 hm).tail ⟨body, hbody, href, hr⟩)
  · intro hentry
    have hnone := Shake.reachable_of_not_mem hp hentry
    obtain ⟨s', hrun, _⟩ := gives_shake_of_none a hp hnone s
    exact ⟨hnone, s', hrun⟩

/-- Two modules that refer to each other, one of them also to itself and to a module that is
not declared, and a third module apart. -/
def knot : Declarations :=
  { entries :=
      [(['a'], Text.ofString "export * from 'b';\nimport X from 'x';"),
        (['b'], Text.ofString "export * from 'a'; type B = import('b').B;"),
        (['c'], Text.ofString "export * from 'a';")] }

/-- An aggregator for the package `p` that keeps everything at the root and follows all
imports. -/
def atRoot : Aggregator where
  voice := ⟨{ cwd := ⟨.root, []⟩, home := ⟨.root, []⟩, tool := ⟨.root, []⟩,
              temporary := ⟨.root, []⟩ }, toolName⟩
  namer := { package := ['p'], root := ⟨.root, []⟩, scratch := ⟨.root, []⟩, cwd := ⟨.root, []⟩ }
  options := { shake := .allImports }

/-- The knot is shaken from one of its modules, and not from a module it does not have. -/
theorem shake_keeps_reachable_knot :
    (['a'] ∈ knot.ids ∧
      ∃ ms kept s',
        reachable knot ['a'] .allImports = some ms ∧ ms.Nodup ∧ ms.head? = some ['a'] ∧
        (∀ m, m ∈ ms ↔ m ∈ knot.ids ∧ Reaches knot .allImports ['a'] m) ∧
        (atRoot.shake knot ['a']).outcome { tree := .nil } = (.ok kept, s') ∧ kept.ids = ms) ∧
    ['x'] ∉ knot.ids ∧
      ∃ s', (atRoot.shake knot ['x']).outcome { tree := .nil } =
        (.error (.unknownEntry ['x']), s') := by
  refine ⟨⟨by decide, ?_⟩, by decide, ?_⟩
  · obtain ⟨ms, kept, s', hreach, hnodup, hhead, hmem, hrun, hids, _⟩ :=
      (shake_keeps_reachable atRoot knot ['a'] { tree := .nil } (by decide)).1 (by decide)
    exact ⟨ms, kept, s', hreach, hnodup, hhead, hmem, hrun, hids⟩
  · exact ((shake_keeps_reachable atRoot knot ['x'] { tree := .nil } (by decide)).2
      (by decide)).2

end Bundle.Aggregator
end AmbientBundle
