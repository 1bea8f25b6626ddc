import AmbientBundle.Proofs.Reachability

/-!
# Shaking parts of a bundle

What a walk records depends on the declarations only through the texts of the modules that it
reaches.  `Covers` says that some declarations serve an entry as well as others do: they declare no
module that the others do not, and give each module that the entry reaches its text.  Then the two
walks go in step: the same modules are recorded and the same modules wait, in the same order
(`Covers.visit_eq`).

A part of the declarations that holds the reached modules covers the whole
(`Covers.of_subset`), whatever else it holds and however it is ordered.  The shaken declarations
are such a part, so shaking them again changes nothing.
-/

namespace AmbientBundle
namespace Shake

variable {d d' : Declarations} {policy : ShakePolicy} {entry m : ModuleId} {body : Text}
  {seen waiting : List ModuleId}

/-! ## Two walks in step -/

/-- Declarations that serve an entry as well as others do. -/
structure Covers (d' d : Declarations) (policy : ShakePolicy) (entry : ModuleId) : Prop where
  /-- No other module is declared. -/
  ids : d'.ids ⊆ d.ids
  /-- What the entry reaches has the same text. -/
  text : ∀ m, Reaches d policy entry m → d'.find? m = d.find? m

namespace Covers

/-- What the entry reaches is declared. -/
theorem mem_ids (h : Covers d' d policy entry) (hentry : entry ∈ d.ids)
    (hm : Reaches d policy entry m) : m ∈ d'.ids := by
  obtain ⟨body, hbody⟩ := Declarations.exists_find?_of_mem_ids (hm.mem_ids hentry)
  rw [← h.text m hm] at hbody
  exact Declarations.mem_ids_of_find? hbody

/-- The same references of a reached module have to be visited. -/
theorem next_eq (h : Covers d' d policy entry) (hentry : entry ∈ d.ids)
    (hm : Reaches d policy entry m) (hbody : d.find? m = some body) (seen : List ModuleId) :
    Explored.next d' policy seen body = Explored.next d policy seen body := by
  refine List.filter_congr fun r hr => ?_
  have hiff : r ∈ d'.ids ↔ r ∈ d.ids := by
    constructor
    · intro hr'
      exact h.ids hr'
    · intro hr'
      exact h.mem_ids hentry (hm.tail ⟨body, hbody, hr, hr'⟩)
  have hcontains : d'.contains r = d.contains r := by
    rw [Bool.eq_iff_iff, Declarations.contains_iff, Declarations.contains_iff, hiff]
  rw [hcontains]

/-- Both walks record the same modules in the same order. -/
theorem visit_eq (h : Covers d' d policy entry) (hentry : entry ∈ d.ids)
    (hexp : Explored d policy entry seen waiting) :
    visit d' policy seen waiting = visit d policy seen waiting := by
  fun_induction visit d policy seen waiting with
  | case1 seen => rw [visit]
  | case2 seen m waiting hm ih => rw [visit_of_mem hm, ih (hexp.skip hm)]
  | case3 seen m waiting hm hnone ih =>
    obtain ⟨body, hsome⟩ := hexp.find?_waiting hentry
    rw [hnone] at hsome
    cases hsome
  | case4 seen m waiting hm body hbody seen' next ih =>
    have hreach : Reaches d policy entry m := hexp.sound m (by simp)
    have hbody' : d'.find? m = some body := (h.text m hreach).trans hbody
    have hnext := h.next_eq hentry hreach hbody (seen ++ [m])
    rw [visit_of_new hm hbody' (congrArg (· ++ waiting) hnext)]
    exact ih (hexp.record hm hbody)

/-- The entry reaches the same modules in the same order. -/
theorem reachable_eq (h : Covers d' d policy entry) (hentry : entry ∈ d.ids)
    (hp : policy ≠ .off) : reachable d' entry policy = reachable d entry policy := by
  have hentry' : entry ∈ d'.ids := h.mem_ids hentry .refl
  rw [reachable_of_mem hp hentry', reachable_of_mem hp hentry,
    h.visit_eq hentry (Explored.start d policy entry)]

/-- A part of the declarations that holds what the entry reaches covers them. -/
theorem of_subset (hsub : d'.entries ⊆ d.entries)
    (hreached : ∀ m, Reaches d policy entry m → m ∈ d'.ids) : Covers d' d policy entry where
  ids := List.map_subset _ hsub
  text := by
    intro m hm
    obtain ⟨body, hbody⟩ := Declarations.exists_find?_of_mem_ids (hreached m hm)
    have hmem : (m, body) ∈ d'.entries := Declarations.find?_eq_some_iff.1 hbody
    exact Declarations.find?_eq_of_mem hmem (hsub hmem)

end Covers
end Shake

namespace Bundle.Aggregator

open Shake (Reaches Explored Covers reachable)

/-- Declarations that cover others are shaken to the same modules with the same texts. -/
theorem gives_shake_of_covers (a : Aggregator) {d d' : Declarations} {entry : ModuleId}
    {ms : List ModuleId} (hp : a.options.shake ≠ .off) (hentry : entry ∈ d.ids)
    (hms : reachable d entry a.options.shake = some ms)
    (hmem : ∀ m ∈ ms, Reaches d a.options.shake entry m)
    (hcov : Covers d' d a.options.shake entry) :
    reachable d' entry a.options.shake = some ms ∧
      (a.shake d' entry).Gives (.ok (d.select ms)) := by
  have hms' : reachable d' entry a.options.shake = some ms :=
    (hcov.reachable_eq hentry hp).trans hms
  have hselect : d'.select ms = d.select ms :=
    Declarations.select_congr fun m hm => hcov.text m (hmem m hm)
  refine ⟨hms', ?_⟩
  rw [← hselect]
  exact gives_shake_of_some a hp hms'

/-- A bundle and every part of it that holds what the entry reaches, in whatever order, are shaken
to the same modules, in the same order and with the same texts.  So neither the order of a bundle
nor a module that is not reached matters, and shaking a shaken bundle changes nothing. -/
theorem shake_stable (a : Aggregator) (d : Declarations) {entry : ModuleId}
    (hp : a.options.shake ≠ .off) (hentry : entry ∈ d.ids) :
    ∃ ms kept,
      reachable d entry a.options.shake = some ms ∧ kept.ids = ms ∧
      (a.shake d entry).Gives (.ok kept) ∧
      (∀ d' : Declarations, d'.entries ⊆ d.entries → ms ⊆ d'.ids →
        reachable d' entry a.options.shake = some ms ∧ (a.shake d' entry).Gives (.ok kept)) ∧
      (∀ d' : Declarations, d'.entries.Perm d.entries →
        reachable d' entry a.options.shake = some ms ∧ (a.shake d' entry).Gives (.ok kept)) ∧
      reachable kept entry a.options.shake = some ms ∧ (a.shake kept entry).Gives (.ok kept) := by
  obtain ⟨ms, hreach, hfull⟩ := Shake.exists_reachable hp hentry
  have hids : ms ⊆ d.ids := hfull.subset_ids hentry
  have hkept : (d.select ms).ids = ms := Declarations.ids_select hfull.nodup hids
  have hpart (d' : Declarations) (hsub : d'.entries ⊆ d.entries) (hms : ms ⊆ d'.ids) :
      reachable d' entry a.options.shake = some ms ∧
        (a.shake d' entry).Gives (.ok (d.select ms)) :=
    gives_shake_of_covers a hp hentry hreach (fun m hm => hfull.mem_iff.1 hm)
      (.of_subset hsub fun m hm => hms (hfull.mem_iff.2 hm))
  refine ⟨ms, d.select ms, hreach, hkept, gives_shake_of_some a hp hreach, hpart, ?_, ?_⟩
  · intro d' hperm
    refine hpart d' hperm.subset fun m hm => ?_
    exact (hperm.map Prod.fst).mem_iff.2 (hids hm)
  · refine hpart _ (Declarations.entries_select_subset hfull.nodup hids) ?_
    rw [hkept]
    exact List.Subset.refl ms

/-- The two modules of the knot that refer to each other, in the other order and without the third
one. -/
def loop : Declarations :=
  { entries :=
      [(['b'], Text.ofString "export * from 'a'; type B = import('b').B;"),
        (['a'], Text.ofString "export * from 'b';\nimport X from 'x';")] }

/-- The knot and its loop are shaken to the same bundle. -/
theorem shake_stable_loop :
    ['a'] ∈ knot.ids ∧ loop.entries ⊆ knot.entries ∧
      ∃ kept, kept.ids = [['a'], ['b']] ∧
        reachable knot ['a'] .allImports = some [['a'], ['b']] ∧
        reachable loop ['a'] .allImports = some [['a'], ['b']] ∧
        (atRoot.shake knot ['a']).Gives (.ok kept) ∧ (atRoot.shake loop ['a']).Gives (.ok kept) ∧
        (atRoot.shake kept ['a']).Gives (.ok kept) := by
  have hentry : ['a'] ∈ knot.ids := by decide
  have hsub : loop.entries ⊆ knot.entries := by decide
  have hwalk : reachable knot ['a'] .allImports = some [['a'], ['b']] := by
    rw [Shake.reachable_of_mem (by decide) hentry, Option.some.injEq]
    calc Shake.visit knot .allImports [] [['a']]
        = Shake.visit knot .allImports [['a']] [['b']] :=
          Shake.visit_of_new (by decide) rfl (by decide)
      _ = Shake.visit knot .allImports [['a'], ['b']] [] :=
          Shake.visit_of_new (by decide) rfl (by decide)
      _ = [['a'], ['b']] := by rw [Shake.visit]
  obtain ⟨ms, kept, hms, hids, hknot, hparts, _, _, hagain⟩ :=
    shake_stable atRoot knot (by decide) hentry
  have hms' : ms = [['a'], ['b']] := by
    rw [show atRoot.options.shake = .allImports from rfl, hwalk] at hms
    exact (Option.some.inj hms).symm
  subst hms'
  obtain ⟨hloop, hshaken⟩ := hparts loop hsub (by decide)
  exact ⟨hentry, hsub, kept, hids, hwalk, hloop, hknot, hshaken, hagain⟩

end Bundle.Aggregator
end AmbientBundle
