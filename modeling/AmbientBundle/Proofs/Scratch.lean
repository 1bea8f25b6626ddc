import AmbientBundle.Proofs.Effects
import AmbientBundle.Proofs.FileTree.Depth
import AmbientBundle.Proofs.FileTree.Taken

/-!
# Making and clearing the scratch directory

A step on the scratch directory is reports around one change of the tree, and a mark that says
whether there is something to clear.  The lemmas here take what that change and that mark do to a
session, and give what the whole step does, whatever is reported on the way and however often it
is tried again.  Where something lies too deep, removing a directory leaves part of it and making
one leaves everything as it was.
-/

namespace AmbientBundle

/-- A host on which nobody else touches the tree while a run pauses. -/
def Host.Still (host : Host) : Prop := ∀ n tree, host.pause n tree = tree

namespace Scratch

/-- A session that remembers whether its scratch directory has been cleared. -/
def marked (emptied : Bool) (σ : Session) : Session :=
  { σ with scratch := σ.scratch.map fun d => { d with emptied } }

section

variable {v : Voice} {path : Path} {I J : Session → Prop}

/-- What stopping because something lies too deep does. -/
theorem ensures_tooDeep {α : Type} {Q : α → Session → Prop} {E : Fault → Session → Prop}
    (h : ∀ σ, I σ → E (.misuse .depth) σ.stopped) : (Action.tooDeep : Action α).Ensures I Q E :=
  .bind (Q := fun _ => E (.misuse .depth)) (.modify h) fun _ => .throw fun _ => id

/-- What removing a directory does: all of it is removed, or what can be before something lies too
deep. -/
theorem ensures_removeTree {host : Host} {Q : Except OsFault Unit → Session → Prop}
    {E : Fault → Session → Prop}
    (hstuck : ∀ σ room left, I σ → host.room σ.moment = some room →
      σ.tree.stuck? room (σ.spot host) path = some left →
      E (.misuse .depth) (σ.withTree host left).stopped)
    (hremoved : ∀ σ r, I σ → σ.tree.removeTree (σ.spot host) path = r → Q r.1 (σ.withTree host r.2)) :
    (Action.removeTree host path).Ensures I Q E := by
  rw [Action.removeTree]
  refine .get_bind fun σ hσ => ?_
  split
  · next left hleft =>
    obtain ⟨room, hroom, hstopped⟩ := Option.bind_eq_some_iff.1 hleft
    exact .bind (Q := fun _ => (· = σ.withTree host left)) (.set fun _ _ => rfl) fun _ =>
      ensures_tooDeep fun τ hτ => hτ ▸ hstuck σ room left hσ hroom hstopped
  · refine .onTree fun τ hτ => ?_
    subst hτ
    exact hremoved _ _ hσ rfl

/-- What making a directory does: it is tried, unless too many are missing above it. -/
theorem ensures_makeDirs {host : Host} {Q : Except OsFault Unit → Session → Prop}
    {E : Fault → Session → Prop} (hsteep : ∀ σ, I σ → E (.misuse .depth) σ.stopped)
    (hmade : ∀ σ r, I σ → σ.tree.makeDirs (σ.spot host) path = r → Q r.1 (σ.withTree host r.2)) :
    (Action.makeDirs host path).Ensures I Q E := by
  rw [Action.makeDirs]
  refine .get_bind fun σ hσ => ?_
  split
  · exact ensures_tooDeep fun τ hτ => hτ ▸ hsteep σ hσ
  · refine .onTree fun τ hτ => ?_
    subst hτ
    exact hmade _ _ hσ rfl

/-- What clearing does, given what removing the directory does. -/
theorem ensures_clear {F : Fault → Session → Prop} (hclean : path.fault? v.host.halves = none)
    (hI : Session.Stable I) (hJ : Session.Stable J) (hF : ∀ f, Session.Stable (F f))
    (hstuck : ∀ σ room left, I σ → v.host.room σ.moment = some room →
      σ.tree.stuck? room (σ.spot v.host) path = some left →
      F (.misuse .depth) (σ.withTree v.host left).stopped)
    (hcleared : ∀ σ r, I σ → σ.tree.removeTree (σ.spot v.host) path = r →
      (∀ e, r.1 = .error e → e.errno = .noEntry) → J (marked true (σ.withTree v.host r.2)))
    (hkept : ∀ σ r e, I σ → σ.tree.removeTree (σ.spot v.host) path = r →
      r.1 = .error e → e.errno ≠ .noEntry →
      F (.scratch (.notRemoved path)) (σ.withTree v.host r.2)) :
    (clear v path).Ensures I (fun _ => J) F := by
  have hdone : Action.Ensures (fun σ => J (marked true σ)) (do
      mark true
      v.verbose "\"tmp\" directory was cleaned!") (fun _ => J) F :=
    .bind (Q := fun _ => J) (.modify fun σ hσ => hσ) fun _ => .say hJ _ _ _
  rw [clear]
  refine .bind (.say hI _ _ _) fun _ => .bind (.checkPath hclean) fun _ => .bind
    (Q := fun r σ => ((∀ e, r = .error e → e.errno = .noEntry) → J (marked true σ)) ∧
      ∀ e, r = .error e → e.errno ≠ .noEntry → F (.scratch (.notRemoved path)) σ)
    (ensures_removeTree hstuck fun σ r hσ hr => ⟨hcleared σ r hσ hr, fun e => hkept σ r e hσ hr⟩)
    fun r => ?_
  cases r with
  | ok u => exact hdone.weaken (fun σ hσ => hσ.1 fun e he => by cases he) (fun _ _ => id) fun _ _ => id
  | error e =>
    by_cases hmissing : e.errno = .noEntry
    · simp only [hmissing, ne_eq, not_true_eq_false, if_false]
      refine hdone.weaken (fun σ hσ => hσ.1 fun e' he' => ?_) (fun _ _ => id) fun _ _ => id
      cases he'
      exact hmissing
    · simp only [ne_eq, hmissing, not_false_eq_true, if_true]
      refine Action.Ensures.weaken (P := F (.scratch (.notRemoved path))) (Q := fun _ => J) (E := F)
        ?_ (fun σ hσ => hσ.2 e rfl hmissing) (fun _ _ => id) fun _ _ => id
      exact .bind (.say (hF _) _ _ _) fun _ => .bind (.say (hF _) _ _ _) fun _ =>
        .bind (Q := fun _ _ => False) (.throw fun _ => id) fun _ σ hσ => hσ.elim

/-- What a try does, given what making the directory does.  If too many directories are missing,
it makes none. -/
theorem ensures_attempt (hclean : path.fault? v.host.halves = none) (hI : Session.Stable I)
    (hJ : Session.Stable J) (hsteep : ∀ σ, I σ → I σ.stopped)
    (hmade : ∀ σ r, I σ → σ.tree.makeDirs (σ.spot v.host) path = r → r.1 = .ok () →
      J (marked false (σ.withTree v.host r.2)))
    (hrefused : ∀ σ r, I σ → σ.tree.makeDirs (σ.spot v.host) path = r → r.1 ≠ .ok () →
      I (σ.withTree v.host r.2)) :
    (attempt v path).Ensures I (fun made => if made then J else I) fun _ => I := by
  rw [attempt]
  refine .bind (.checkPath hclean) fun _ => .bind
    (Q := fun r σ => (r = .ok () → J (marked false σ)) ∧ (r ≠ .ok () → I σ))
    (ensures_makeDirs hsteep fun σ r hσ hr => ⟨hmade σ r hσ hr, hrefused σ r hσ hr⟩)
    fun r => ?_
  cases r with
  | ok u =>
    exact .bind (Q := fun _ => J) (.modify fun σ hσ => hσ.1 rfl) fun _ =>
      .bind (.say hJ _ _ _) fun _ => .pure fun _ => id
  | error e =>
    refine Action.Ensures.weaken (P := I) (Q := fun made => if made then J else I)
      (E := fun _ => I) ?_ (fun σ hσ => hσ.2 fun h => by cases h) (fun _ _ => id) fun _ _ => id
    exact .bind (.say hI _ _ _) fun _ => .bind (.say hI _ _ _) fun _ => .pure fun _ => id

/-- What making the directory does, however often it is tried. -/
theorem ensures_make (hclean : path.fault? v.host.halves = none) (hI : Session.Stable I)
    (hJ : Session.Stable J) (hsteep : ∀ σ, I σ → I σ.stopped)
    (hmade : ∀ σ r, I σ → σ.tree.makeDirs (σ.spot v.host) path = r → r.1 = .ok () →
      J (marked false (σ.withTree v.host r.2)))
    (hrefused : ∀ σ r, I σ → σ.tree.makeDirs (σ.spot v.host) path = r → r.1 ≠ .ok () →
      I (σ.withTree v.host r.2))
    (hwait : (wait v.host).Ensures I (fun _ => I) fun _ => I) (patience : Patience) :
    (make v patience path).Ensures I (fun _ => J) fun _ => I := by
  have htry := ensures_attempt hclean hI hJ hsteep hmade hrefused
  have hloop (left : Nat) : (makeWith v patience path left).Ensures I (fun _ => J) fun _ => I := by
    induction left with
    | zero =>
      rw [makeWith]
      refine .bind htry fun made => ?_
      cases made with
      | true => exact .pure fun _ => id
      | false => exact .bind (.say hI _ _ _) fun _ => .throw fun _ => id
    | succ left ih =>
      rw [makeWith]
      refine .bind htry fun made => ?_
      cases made with
      | true => exact .pure fun _ => id
      | false =>
        simp only [Bool.false_eq_true, if_false]
        cases patience.delay.milliseconds with
        | error how => exact .bind (Q := fun _ _ => False) (.throw fun _ => id) fun _ σ hσ => hσ.elim
        | ok ms => exact .bind (.say hI _ _ _) fun _ => .bind hwait fun _ => ih
  rw [make]
  exact .bind (.say hI _ _ _) fun _ => hloop _

/-- Waiting does not matter where nobody else is at work. -/
theorem ensures_wait {host : Host} (hstill : host.Still)
    (hI : ∀ σ k, I σ → I { σ.withTree host σ.tree with pauses := k }) :
    (wait host).Ensures I (fun _ => I) fun _ => I := by
  rw [wait]
  refine .modify fun σ hσ => ?_
  rw [hstill]
  exact hI σ _ hσ

end
end Scratch
end AmbientBundle
