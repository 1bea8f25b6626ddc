import AmbientBundle.Proofs.Effects
import AmbientBundle.Proofs.FileTree.Mirror

/-!
# Two runs side by side

`Action.Lockstep R act act' Q E` compares two actions that are run from related sessions: either
both give a result, or both fail with faults of one kind.  The rules follow the text of the
actions, as those for a single action do.

A relation that has to survive reports on both sides is `Session.StableOn`.  Actions that only
report can be compared by their results alone (`of_reports`), and an action that is blind gives the
same result on both sides (`of_blind`).
-/

namespace AmbientBundle

/-- A relation of sessions that reports on either side cannot change. -/
def Session.StableOn (R : Session → Session → Prop) : Prop :=
  ∀ s s' t t', R s s' → s.Reported t → s'.Reported t' → R t t'

namespace Action

/-- What holds after two actions, given what holds before. -/
def Lockstep {α β : Type} (R : Session → Session → Prop) (act : Action α) (act' : Action β)
    (Q : α → β → Session → Session → Prop) (E : Session → Session → Prop) : Prop :=
  ∀ s s', R s s' →
    Agree (fun f f' => f.kind = f'.kind ∧ E (act.outcome s).2 (act'.outcome s').2)
      (fun a b => Q a b (act.outcome s).2 (act'.outcome s').2) (act.outcome s).1
      (act'.outcome s').1

namespace Lockstep

variable {α β γ δ : Type} {R T : Session → Session → Prop} {act : Action α} {act' : Action β}
  {next : α → Action γ} {next' : β → Action δ} {Q : α → β → Session → Session → Prop}
  {E F : Session → Session → Prop}

theorem cases (h : Lockstep R act act' Q E) {s s' : Session} (hs : R s s') :
    (∃ a b t t', act.outcome s = (.ok a, t) ∧ act'.outcome s' = (.ok b, t') ∧ Q a b t t') ∨
      ∃ f f' t t', act.outcome s = (.error f, t) ∧ act'.outcome s' = (.error f', t') ∧
        f.kind = f'.kind ∧ E t t' := by
  have hafter := h s s' hs
  generalize act.outcome s = x at hafter
  generalize act'.outcome s' = y at hafter
  obtain ⟨r, t⟩ := x
  obtain ⟨r', t'⟩ := y
  rcases hafter.cases with ⟨a, b, hr, hr', hQ⟩ | ⟨f, f', hr, hr', hkind, hE⟩
  · exact Or.inl ⟨a, b, t, t', Prod.ext hr rfl, Prod.ext hr' rfl, hQ⟩
  · exact Or.inr ⟨f, f', t, t', Prod.ext hr rfl, Prod.ext hr' rfl, hkind, hE⟩

theorem of_ok {s s' t t' : Session} {a : α} {b : β} (hact : act.outcome s = (.ok a, t))
    (hact' : act'.outcome s' = (.ok b, t')) (h : Q a b t t') :
    Agree (fun f f' => f.kind = f'.kind ∧ E (act.outcome s).2 (act'.outcome s').2)
      (fun a b => Q a b (act.outcome s).2 (act'.outcome s').2) (act.outcome s).1
      (act'.outcome s').1 := by
  rw [hact, hact']
  exact h

theorem of_error {s s' t t' : Session} {f f' : Fault} (hact : act.outcome s = (.error f, t))
    (hact' : act'.outcome s' = (.error f', t')) (hkind : f.kind = f'.kind) (h : E t t') :
    Agree (fun f f' => f.kind = f'.kind ∧ E (act.outcome s).2 (act'.outcome s').2)
      (fun a b => Q a b (act.outcome s).2 (act'.outcome s').2) (act.outcome s).1
      (act'.outcome s').1 := by
  rw [hact, hact']
  exact ⟨hkind, h⟩

theorem weaken {Q' : α → β → Session → Session → Prop} (h : Lockstep R act act' Q E)
    (hR : ∀ s s', T s s' → R s s')
    (hQ : ∀ a b s s', Q a b s s' → Q' a b s s') (hE : ∀ s s', E s s' → F s s') :
    Lockstep T act act' Q' F := by
  intro s s' hs
  rcases h.cases (hR s s' hs) with ⟨a, b, t, t', hact, hact', hafter⟩ |
    ⟨f, f', t, t', hact, hact', hkind, hafter⟩
  · exact of_ok hact hact' (hQ a b t t' hafter)
  · exact of_error hact hact' hkind (hE t t' hafter)

/-- What the actions gave, and where they were run, may be used for what comes next. -/
theorem remember (h : Lockstep R act act' Q E) :
    Lockstep R act act' (fun a b t t' => Q a b t t' ∧ ∃ s s', R s s' ∧
      act.outcome s = (.ok a, t) ∧ act'.outcome s' = (.ok b, t')) E := by
  intro s s' hs
  rcases h.cases hs with ⟨a, b, t, t', hact, hact', hafter⟩ | ⟨f, f', t, t', hact, hact', hkind, hafter⟩
  · rw [hact, hact']
    exact ⟨hafter, s, s', hs, hact, hact'⟩
  · rw [hact, hact']
    exact ⟨hkind, hafter⟩

/-- A fact that does not depend on the sessions can be used to compare the actions. -/
theorem assume {p : Prop} (h : p → Lockstep R act act' Q E) :
    Lockstep (fun s s' => p ∧ R s s') act act' Q E := fun s s' hs => h hs.1 s s' hs.2

theorem pure {a : α} {b : β} (h : ∀ s s', R s s' → Q a b s s') :
    Lockstep R (Pure.pure a : Action α) (Pure.pure b : Action β) Q E := h

theorem throw {f f' : Fault} (hkind : f.kind = f'.kind) (h : ∀ s s', R s s' → E s s') :
    Lockstep R (MonadExcept.throw f : Action α) (MonadExcept.throw f' : Action β) Q E :=
  fun s s' hs => ⟨hkind, h s s' hs⟩

theorem modify {g g' : Session → Session} {Q : PUnit → PUnit → Session → Session → Prop}
    (h : ∀ s s', R s s' → Q ⟨⟩ ⟨⟩ (g s) (g' s')) :
    Lockstep R (modify g : Action PUnit) (modify g' : Action PUnit) Q E := h

theorem set {σ σ' : Session} {Q : PUnit → PUnit → Session → Session → Prop}
    (h : ∀ s s', R s s' → Q ⟨⟩ ⟨⟩ σ σ') :
    Lockstep R (set σ : Action PUnit) (set σ' : Action PUnit) Q E := h

theorem bind {Q' : γ → δ → Session → Session → Prop} (hact : Lockstep R act act' Q E)
    (hnext : ∀ a b, Lockstep (Q a b) (next a) (next' b) Q' E) :
    Lockstep R (act >>= next) (act' >>= next') Q' E := by
  intro s s' hs
  rcases hact.cases hs with ⟨a, b, t, t', hrun, hrun', hafter⟩ |
    ⟨f, f', t, t', hrun, hrun', hkind, hafter⟩
  · rw [outcome_bind_ok hrun, outcome_bind_ok hrun']
    exact hnext a b t t' hafter
  · exact of_error (outcome_bind_error hrun) (outcome_bind_error hrun') hkind hafter

theorem get_bind {k : Session → Action γ} {k' : Session → Action δ}
    {Q' : γ → δ → Session → Session → Prop}
    (h : ∀ s s', R s s' → Lockstep (fun t t' => t = s ∧ t' = s') (k s) (k' s') Q' E) :
    Lockstep R (get >>= k) (get >>= k') Q' E :=
  fun s s' hs => h s s' hs s s' ⟨rfl, rfl⟩

theorem onTree {host : Host} {g : Spot → Folder → α × Folder} {g' : Spot → Folder → β × Folder}
    (h : ∀ s s', R s s' → Q (g (s.spot host) s.tree).1 (g' (s'.spot host) s'.tree).1
      (s.withTree host (g (s.spot host) s.tree).2) (s'.withTree host (g' (s'.spot host) s'.tree).2)) :
    Lockstep R (Action.onTree host g) (Action.onTree host g') Q E := h

/-- Faults that are kept as results are compared as results. -/
theorem observe (h : Lockstep R act act' Q E) :
    Lockstep R act.observe act'.observe
      (fun r r' s s' => Agree (fun f f' => f.kind = f'.kind ∧ E s s') (fun a b => Q a b s s') r r')
      F := by
  intro s s' hs
  rw [outcome_observe, outcome_observe]
  exact h s s' hs

/-- What comes after observed actions depends on whether both gave a result. -/
theorem bind_observe {next : Except Fault α → Action γ} {next' : Except Fault β → Action δ}
    {Q' : γ → δ → Session → Session → Prop} (h : Lockstep R act act' Q E)
    (hok : ∀ a b, Lockstep (Q a b) (next (.ok a)) (next' (.ok b)) Q' F)
    (herror : ∀ f f', f.kind = f'.kind → Lockstep E (next (.error f)) (next' (.error f')) Q' F) :
    Lockstep R (act.observe >>= next) (act'.observe >>= next') Q' F := by
  refine .bind h.observe fun r r' s s' hs => ?_
  rcases hs.cases with ⟨a, b, rfl, rfl, hQ⟩ | ⟨f, f', rfl, rfl, hkind, hE⟩
  · exact hok a b s s' hQ
  · exact herror f f' hkind s s' hE

theorem tryCatch {handle : Fault → Action α} {handle' : Fault → Action β}
    (h : Lockstep R act act' Q E) (hhandle : ∀ f f', Lockstep E (handle f) (handle' f') Q F) :
    Lockstep R (MonadExcept.tryCatch act handle) (MonadExcept.tryCatch act' handle') Q F := by
  intro s s' hs
  rw [outcome_tryCatch, outcome_tryCatch]
  rcases h.cases hs with ⟨a, b, t, t', hrun, hrun', hafter⟩ |
    ⟨f, f', t, t', hrun, hrun', _, hafter⟩
  · rw [hrun, hrun']
    exact hafter
  · rw [hrun, hrun']
    exact hhandle f f' t t' hafter

/-- What each action does on its own can be added. -/
theorem and_ensures {I I' F F' : Session → Prop} {A : α → Session → Prop} {A' : β → Session → Prop}
    (h : Lockstep R act act' Q E) (hleft : act.Ensures I A fun _ => F)
    (hright : act'.Ensures I' A' fun _ => F') :
    Lockstep (fun s s' => R s s' ∧ I s ∧ I' s') act act'
      (fun a b s s' => Q a b s s' ∧ A a s ∧ A' b s') fun s s' => E s s' ∧ F s ∧ F' s' := by
  intro s s' hs
  rcases h.cases hs.1 with ⟨a, b, t, t', hact, hact', hafter⟩ |
    ⟨f, f', t, t', hact, hact', hkind, hafter⟩
  · rw [hact, hact']
    exact ⟨hafter, hleft.of_ok hs.2.1 hact, hright.of_ok hs.2.2 hact'⟩
  · rw [hact, hact']
    exact ⟨hkind, hafter, hleft.of_error hs.2.1 hact, hright.of_error hs.2.2 hact'⟩

/-- Actions that never fail can be run one after the other. -/
theorem apart {M : α → Session → Session → Prop}
    (hleft : ∀ s', act.Ensures (fun s => R s s') (fun a s => M a s s') fun _ _ => False)
    (hright : ∀ a s, act'.Ensures (fun s' => M a s s') (fun b s' => Q a b s s') fun _ _ => False) :
    Lockstep R act act' Q E := by
  intro s s' hs
  rcases hact : act.outcome s with ⟨r, t⟩
  cases r with
  | error f => exact ((hleft s').of_error hs hact).elim
  | ok a =>
    have hmid := (hleft s').of_ok hs hact
    rcases hact' : act'.outcome s' with ⟨r', t'⟩
    cases r' with
    | error f' => exact ((hright a t).of_error hmid hact').elim
    | ok b => exact (hright a t).of_ok hmid hact'

/-! ## Reports -/

/-- Actions that only report are compared by their results. -/
theorem of_reports {S : α → β → Prop} (hact : act.Reports) (hact' : act'.Reports)
    (hR : Session.StableOn R)
    (hresult : ∀ s s', R s s' →
      Agree (fun f f' => f.kind = f'.kind) S (act.outcome s).1 (act'.outcome s').1) :
    Lockstep R act act' (fun a b s s' => S a b ∧ R s s') R := by
  intro s s' hs
  have hafter := hR s s' _ _ hs (hact s) (hact' s')
  rcases (hresult s s' hs).cases with ⟨a, b, hr, hr', hS⟩ | ⟨f, f', hr, hr', hkind⟩
  · exact of_ok (Q := fun a b s s' => S a b ∧ R s s') (Prod.ext hr rfl) (Prod.ext hr' rfl)
      ⟨hS, hafter⟩
  · exact of_error (Q := fun a b s s' => S a b ∧ R s s') (Prod.ext hr rfl) (Prod.ext hr' rfl) hkind
      hafter

theorem of_gives {r : Except Fault α} {r' : Except Fault β} {S : α → β → Prop} (hact : act.Gives r)
    (hact' : act'.Gives r') (hR : Session.StableOn R)
    (h : Agree (fun f f' => f.kind = f'.kind) S r r') :
    Lockstep R act act' (fun a b s s' => S a b ∧ R s s') R := by
  refine of_reports (.of_gives hact) (.of_gives hact') hR fun s s' _ => ?_
  obtain ⟨t, ht, _⟩ := hact s
  obtain ⟨t', ht', _⟩ := hact' s'
  rw [ht, ht']
  exact h

/-- A message on either side changes nothing. -/
theorem say (hR : Session.StableOn R) (v v' : Voice) (level level' : Level)
    (message message' : String) :
    Lockstep R (v.say level message) (v'.say level' message') (fun _ _ => R) E := by
  intro s s' hs
  obtain ⟨t, ht, hrep⟩ := v.outcome_say level message s
  obtain ⟨t', ht', hrep'⟩ := v'.outcome_say level' message' s'
  exact of_ok ht ht' (hR s s' t t' hs hrep hrep')

theorem checkPath {host : Host} {p p' : Path} (hclean : p.fault? host.halves = none)
    (hclean' : p'.fault? host.halves = none) :
    Lockstep R (Action.checkPath host p) (Action.checkPath host p') (fun _ _ => R) E := by
  rw [Action.checkPath, Action.checkPath, hclean, hclean']
  exact .pure fun _ _ => id

theorem of_blind (hact : act.Blind) (hR : Session.StableOn R)
    (hlost : ∀ s s', R s s' → (s.lost = 0 ↔ s'.lost = 0)) :
    Lockstep R act act (fun a b s s' => a = b ∧ R s s') R := by
  refine of_reports hact.reports hact.reports hR fun s s' hs => ?_
  rw [hact.result s s' (hlost s s' hs)]
  cases (act.outcome s').1 with
  | ok a => exact (rfl : a = a)
  | error f => exact (rfl : f.kind = f.kind)

end Lockstep
end Action
end AmbientBundle
