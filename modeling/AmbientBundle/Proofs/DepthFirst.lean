import Mathlib.Data.List.Basic
import AmbientBundle.Proofs.Reachability

/-!
# The order of a walk

Descending to a module records it and then descends to the declared modules that it refers to, one
after the other.  Each of them finds recorded what the ones before it have recorded, and a module
that is recorded is not entered again.  `preorder` is what descending to an entry records.

`visit` has no recursion into modules.  It keeps the modules that wait in one list, so that a module
may stand in the list several times, and may be recorded on a deeper way before the place where it
stands is reached.  `visit_append` relates the two: working off the modules at the front of the list
comes to descending to them.  The references that `visit` leaves out because they were recorded
already make no difference, since descending to a recorded module does nothing
(`descendAll_unseen`).
-/

namespace AmbientBundle
namespace Shake

/-! ## Descending -/

/-- What is recorded later: it starts with what was recorded before. -/
abbrev Later (seen : List ModuleId) : Type := { later : List ModuleId // seen <+: later }

/-- Recording more modules never leaves more to record. -/
theorem length_unseen_later {seen : List ModuleId} (later : Later seen) (ms : List ModuleId) :
    (unseen later.1 ms).length ≤ (unseen seen ms).length := by
  refine (List.monotone_filter_right ms fun m hm => ?_).length_le
  simp only [Bool.not_eq_true', List.contains_eq_mem, decide_eq_false_iff_not] at hm ⊢
  exact fun hseen => hm (later.2.subset hseen)

mutual

/-- Descend to a module: unless it was recorded before, it is recorded, and then come the declared
modules that it refers to. -/
def descend (d : Declarations) (policy : ShakePolicy) (seen : List ModuleId) (m : ModuleId) :
    Later seen :=
  if _h : m ∈ d.ids ∧ m ∉ seen then
    let below := descendAll d policy (seen ++ [m]) ((referencesOf d policy m).filter d.contains)
    ⟨below.1, (List.prefix_append seen [m]).trans below.2⟩
  else ⟨seen, List.prefix_rfl⟩
termination_by ((unseen seen d.ids).length, 0)
decreasing_by exact Prod.Lex.left _ _ (length_unseen_lt _h.1 _h.2)

/-- Descend to modules in turn. -/
def descendAll (d : Declarations) (policy : ShakePolicy) (seen : List ModuleId) :
    List ModuleId → Later seen
  | [] => ⟨seen, List.prefix_rfl⟩
  | m :: rest =>
      let here := descend d policy seen m
      let all := descendAll d policy here.1 rest
      ⟨all.1, here.2.trans all.2⟩
termination_by ms => ((unseen seen d.ids).length, ms.length + 1)
decreasing_by
  · exact Prod.Lex.right _ (Nat.succ_pos _)
  · rcases Nat.lt_or_eq_of_le (length_unseen_later here d.ids) with hlt | heq
    · exact Prod.Lex.left _ _ hlt
    · rw [heq]
      exact Prod.Lex.right _ (Nat.lt_succ_self _)

end

/-- The modules that descending to an entry records, in the order in which they are recorded. -/
def preorder (d : Declarations) (policy : ShakePolicy) (entry : ModuleId) : List ModuleId :=
  (descend d policy [] entry).1

section

variable {d : Declarations} {policy : ShakePolicy} {seen : List ModuleId} {m : ModuleId}

theorem descend_of_mem (hm : m ∈ seen) : (descend d policy seen m).1 = seen := by
  rw [descend, dif_neg fun h => h.2 hm]

theorem descend_of_not_mem_ids (hm : m ∉ d.ids) : (descend d policy seen m).1 = seen := by
  rw [descend, dif_neg fun h => hm h.1]

theorem descend_of_new (hids : m ∈ d.ids) (hm : m ∉ seen) :
    (descend d policy seen m).1 =
      (descendAll d policy (seen ++ [m]) ((referencesOf d policy m).filter d.contains)).1 := by
  rw [descend, dif_pos ⟨hids, hm⟩]

theorem descendAll_nil : (descendAll d policy seen []).1 = seen := by
  rw [descendAll]

theorem descendAll_cons (rest : List ModuleId) :
    (descendAll d policy seen (m :: rest)).1 =
      (descendAll d policy (descend d policy seen m).1 rest).1 := by
  rw [descendAll]

/-- Modules that were recorded before may be left out. -/
theorem descendAll_unseen {old ms : List ModuleId} (h : old ⊆ seen) :
    (descendAll d policy seen (ms.filter fun m => !old.contains m)).1 =
      (descendAll d policy seen ms).1 := by
  induction ms generalizing seen with
  | nil => rfl
  | cons m rest ih =>
    by_cases hm : m ∈ old
    · rw [List.filter_cons_of_neg (by simp [hm]), descendAll_cons, descend_of_mem (h hm), ih h]
    · rw [List.filter_cons_of_pos (by simp [hm]), descendAll_cons, descendAll_cons]
      exact ih fun k hk => (descend d policy seen m).2.subset (h hk)

end

/-! ## The walk -/

section

variable {d : Declarations} {policy : ShakePolicy} {seen : List ModuleId}

/-- Visiting the next module comes to descending to it, if visiting what it refers to does. -/
theorem visit_cons {m : ModuleId} {waiting : List ModuleId}
    (h : m ∈ d.ids → m ∉ seen → ∀ ms, visit d policy (seen ++ [m]) (ms ++ waiting) =
      visit d policy (descendAll d policy (seen ++ [m]) ms).1 waiting) :
    visit d policy seen (m :: waiting) = visit d policy (descend d policy seen m).1 waiting := by
  by_cases hm : m ∈ seen
  · rw [visit, dif_pos hm, descend_of_mem hm]
  · rw [visit, dif_neg hm]
    split
    · next hnone =>
      have hids : m ∉ d.ids := fun hids => by
        obtain ⟨body, hbody⟩ := Declarations.exists_find?_of_mem_ids hids
        rw [hnone] at hbody
        cases hbody
      rw [descend_of_not_mem_ids hids]
    · next body hbody =>
      have hids := Declarations.mem_ids_of_find? hbody
      have hrefs : referencesOf d policy m = Import.references body policy := by
        rw [referencesOf, hbody]
      have hnext : ((Import.references body policy).filter fun r =>
          !(seen ++ [m]).contains r && d.contains r) =
          ((referencesOf d policy m).filter d.contains).filter fun r =>
            !(seen ++ [m]).contains r := by
        rw [hrefs, List.filter_filter]
      simp only
      rw [descend_of_new hids hm, hnext, h hids hm, descendAll_unseen (List.Subset.refl _)]

/-- Visiting modules at the front of the list comes to descending to them in turn. -/
theorem visit_append (d : Declarations) (policy : ShakePolicy) (seen ms waiting : List ModuleId) :
    visit d policy seen (ms ++ waiting) =
      visit d policy (descendAll d policy seen ms).1 waiting := by
  -- The modules that are not recorded yet become fewer with each module that is entered.
  induction hn : (unseen seen d.ids).length using Nat.strongRecOn
    generalizing seen ms waiting with
  | _ n ihn =>
  induction ms generalizing seen with
  | nil => rw [descendAll_nil, List.nil_append]
  | cons m rest ih =>
    have hhere : visit d policy seen (m :: (rest ++ waiting)) =
        visit d policy (descend d policy seen m).1 (rest ++ waiting) := by
      refine visit_cons fun hids hm ms => ?_
      exact ihn _ (hn ▸ length_unseen_lt hids hm) _ ms _ rfl
    rw [List.cons_append, hhere, descendAll_cons]
    rcases Nat.lt_or_eq_of_le (length_unseen_later (descend d policy seen m) d.ids) with hlt | heq
    · exact ihn _ (hn ▸ hlt) _ rest waiting rfl
    · exact ih _ (heq.trans hn)

/-- The walk from an entry records what descending to it records. -/
theorem visit_entry (entry : ModuleId) : visit d policy [] [entry] = preorder d policy entry := by
  have hwalk := visit_append d policy [] [entry] []
  rwa [List.append_nil, descendAll_cons, descendAll_nil, visit] at hwalk

end
end Shake

namespace Bundle.Aggregator

open Shake

/-- The modules reachable from a declared entry are given in the order in which a recursive descent
records them, whatever the graph is like. -/
theorem reach_eq_preorder (v : Voice) (d : Declarations) {entry : ModuleId} {policy : ShakePolicy}
    (hp : policy ≠ .off) (hentry : entry ∈ d.ids) (s : Session) :
    reachable d entry policy = some (preorder d policy entry) ∧
      ∃ s', (reach v d entry policy).outcome s = (.ok (preorder d policy entry), s') := by
  have hreach : reachable d entry policy = some (preorder d policy entry) := by
    rw [Shake.reachable_of_mem hp hentry, Shake.visit_entry]
  obtain ⟨s', hrun, _⟩ := gives_reach_of_some v hreach s
  exact ⟨hreach, s', hrun⟩

/-- Four modules with cycles.  The first one names the second twice and the two others once, so that
these wait from the start on; but both are reached through the second one before their turn comes,
and in the other order. -/
def braid : Declarations :=
  { entries :=
      [(['a'],
          Text.ofString
            "import B from 'b';\nexport * from 'd';\nexport * from 'c';\nexport * from 'b';"),
        (['b'], Text.ofString "export * from 'c';\nexport * from 'a';"),
        (['c'], Text.ofString "export * from 'x';\nexport * from 'd';"),
        (['d'], Text.ofString "export * from 'c';")] }

theorem reach_eq_preorder_braid :
    ['a'] ∈ braid.ids ∧
      reachable braid ['a'] .allImports = some [['a'], ['b'], ['c'], ['d']] := by
  have hentry : ['a'] ∈ braid.ids := by decide
  -- From the second module on, the others are recorded below each other.
  have hd : (descend braid .allImports [['a'], ['b'], ['c']] ['d']).1 =
      [['a'], ['b'], ['c'], ['d']] := by
    have hrefs : (referencesOf braid .allImports ['d']).filter braid.contains = [['c']] := by
      decide +kernel
    rw [descend_of_new (by decide) (by decide), hrefs, descendAll_cons, descend_of_mem (by decide),
      descendAll_nil]
    rfl
  have hc : (descend braid .allImports [['a'], ['b']] ['c']).1 =
      [['a'], ['b'], ['c'], ['d']] := by
    have hrefs : (referencesOf braid .allImports ['c']).filter braid.contains = [['d']] := by
      decide +kernel
    rw [descend_of_new (by decide) (by decide), hrefs, descendAll_cons, descendAll_nil]
    exact hd
  have hb : (descend braid .allImports [['a']] ['b']).1 = [['a'], ['b'], ['c'], ['d']] := by
    have hrefs : (referencesOf braid .allImports ['b']).filter braid.contains =
        [['c'], ['a']] := by decide +kernel
    rw [descend_of_new (by decide) (by decide), hrefs, List.singleton_append, descendAll_cons, hc,
      descendAll_cons, descend_of_mem (by decide), descendAll_nil]
  have horder : preorder braid .allImports ['a'] = [['a'], ['b'], ['c'], ['d']] := by
    have hrefs : (referencesOf braid .allImports ['a']).filter braid.contains =
        [['b'], ['d'], ['c'], ['b']] := by decide +kernel
    rw [preorder, descend_of_new hentry (by decide), hrefs, List.nil_append, descendAll_cons, hb,
      descendAll_cons, descend_of_mem (by decide), descendAll_cons, descend_of_mem (by decide),
      descendAll_cons, descend_of_mem (by decide), descendAll_nil]
  refine ⟨hentry, ?_⟩
  rw [(reach_eq_preorder atRoot.voice braid (by decide) hentry { tree := .nil }).1, horder]

end Bundle.Aggregator
end AmbientBundle
