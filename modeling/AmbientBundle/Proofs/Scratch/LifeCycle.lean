import Mathlib.Logic.Function.Iterate
import AmbientBundle.Proofs.Scratch.Calls

/-!
# The life of a scratch directory

A scratch directory is made, cleared and reset by calls, and others may change the tree between two
calls and in every pause of a call.  Three things go together here.

*Tries.*  Making the directory is a row of tries with a pause between two of them.  `tryAt` is the
session of a try, as it is if the tries before it were refused, and `tries_makeWith` says which
try is the last one.  A try for which too many directories are missing is the last one, whatever
is left.

*Resetting.*  Nothing is in the way of a directory that has been cleared, so the first try to make
it again succeeds, unless too many directories are missing above it (`reset_cases`).

*The mark.*  What the calls of a run have done is a list of deeds.  The last deed decides how the
directory is marked (`MarkedAs.after`), since a call that fails has no deed of its own and leaves
the mark alone.
-/

namespace AmbientBundle
namespace Scratch

/-! ## Tries -/

section

variable (v : Voice) (patience : Patience) (path : Path)

/-- Say how long the pause before the next try will be. -/
def announce : Action Unit :=
  match patience.delay.milliseconds with
  | .error how => throw (.misuse how)
  | .ok ms => v.verbose ("Will retry in " ++ toString ms ++ "ms...")

/-- A try that is refused is followed by a pause and the other tries. -/
theorem makeWith_succ (left : Nat) :
    makeWith v patience path (left + 1) = (do
      if ← attempt v path then pure path
      else
        announce v patience
        wait v.host
        makeWith v patience path left) := by
  rw [makeWith, announce]
  cases patience.delay.milliseconds with
  | error how => rfl
  | ok ms => rfl

theorem reports_announce : (announce v patience).Reports := by
  rw [announce]
  split
  · exact .throw _
  · exact .say _ _ _

/-- The session in which a run waits after a try that was refused. -/
def held (σ : Session) : Session :=
  ((announce v patience).outcome ((attempt v path).outcome σ).2).2

/-- The session of the next try, after a try that was refused and a pause. -/
def again (σ : Session) : Session := ((wait v.host).outcome (held v patience path σ)).2

/-- The session of a try, if the tries before it were refused. -/
def tryAt (σ : Session) (i : Nat) : Session :=
  (again v patience path)^[i] ((v.verbose "Preparing \"tmp\" directory...").outcome σ).2

end

section

variable {v : Voice} {patience : Patience} {path : Path} {σ σ' : Session}

/-- A try that is not refused makes the directory. -/
theorem attempt_of_free (hclean : path.fault? v.host.halves = none) (hflat : ¬ TooSteep v path σ)
    (hfree : ¬ Refused v path σ) : ∃ σ', (attempt v path).outcome σ = (.ok true, σ') ∧
      (marked false (σ.withTree v.host (σ.tree.makeDirs (σ.spot v.host) path).2)).Reported σ' := by
  rcases outcome_attempt hclean hflat with ⟨-, hmade⟩ | ⟨hrefused, -⟩
  · exact hmade
  · exact absurd hrefused hfree

theorem attempt_of_refused (hclean : path.fault? v.host.halves = none) (hflat : ¬ TooSteep v path σ)
    (hrefused : Refused v path σ) : ∃ σ', (attempt v path).outcome σ = (.ok false, σ') ∧
      (σ.withTree v.host (σ.tree.makeDirs (σ.spot v.host) path).2).Reported σ' := by
  rcases outcome_attempt hclean hflat with ⟨hfree, -⟩ | ⟨-, hkept⟩
  · exact absurd hrefused hfree
  · exact hkept

theorem pauses_attempt (hclean : path.fault? v.host.halves = none) (σ : Session) :
    ((attempt v path).outcome σ).2.pauses = σ.pauses := by
  by_cases hsteep : TooSteep v path σ
  · rw [outcome_attempt_of_tooSteep hclean hsteep]
    rfl
  rcases outcome_attempt hclean hsteep with ⟨-, σ', hrun, hrep⟩ | ⟨-, σ', hrun, hrep⟩
  · rw [hrun]
    exact hrep.pauses
  · rw [hrun]
    exact hrep.pauses

/-- There is one pause between two tries. -/
theorem pauses_again (hclean : path.fault? v.host.halves = none) (σ : Session) :
    (again v patience path σ).pauses = σ.pauses + 1 := by
  have hheld : (held v patience path σ).pauses = σ.pauses :=
    (reports_announce v patience _).pauses.trans (pauses_attempt hclean σ)
  rw [← hheld]
  rfl

theorem pauses_iterate (hclean : path.fault? v.host.halves = none) (σ : Session) (k : Nat) :
    ((again v patience path)^[k] σ).pauses = σ.pauses + k := by
  induction k with
  | zero => rfl
  | succ k ih =>
    rw [Function.iterate_succ_apply', pauses_again hclean, ih]
    rfl

/-! ## Rows of tries -/

theorem outcome_makeWith_of_free (hclean : path.fault? v.host.halves = none)
    (hflat : ¬ TooSteep v path σ) (hfree : ¬ Refused v path σ) (left : Nat) :
    (makeWith v patience path left).outcome σ = (.ok path, ((attempt v path).outcome σ).2) := by
  obtain ⟨σ', hrun, -⟩ := attempt_of_free hclean hflat hfree
  cases left with
  | zero =>
    rw [makeWith, Action.outcome_bind_ok hrun, hrun]
    rfl
  | succ left =>
    rw [makeWith_succ, Action.outcome_bind_ok hrun, hrun]
    rfl

theorem outcome_makeWith_of_tooSteep (hclean : path.fault? v.host.halves = none)
    (hsteep : TooSteep v path σ) (left : Nat) :
    (makeWith v patience path left).outcome σ = (.error (.misuse .depth), σ.stopped) := by
  have hrun := outcome_attempt_of_tooSteep hclean hsteep
  cases left with
  | zero => rw [makeWith, Action.outcome_bind_error hrun]
  | succ left => rw [makeWith_succ, Action.outcome_bind_error hrun]

theorem outcome_makeWith_zero (patience : Patience) (hclean : path.fault? v.host.halves = none)
    (hflat : ¬ TooSteep v path σ) (hrefused : Refused v path σ) :
    ∃ σ', (makeWith v patience path 0).outcome σ = (.error (.scratch (.notMade path)), σ') ∧
      ((attempt v path).outcome σ).2.Reported σ' := by
  obtain ⟨σ₁, hrun, -⟩ := attempt_of_refused hclean hflat hrefused
  obtain ⟨σ', hsay, hrep⟩ := v.outcome_say Level.error
    ("Stopped trying after " ++ toString patience.retries ++ " retries!") σ₁
  refine ⟨σ', ?_, by rwa [hrun]⟩
  rw [makeWith, Action.outcome_bind_ok hrun]
  exact Action.outcome_bind_ok hsay

theorem outcome_makeWith_succ (hclean : path.fault? v.host.halves = none)
    (hdelay : ∃ ms, patience.delay.milliseconds = .ok ms) (hflat : ¬ TooSteep v path σ)
    (hrefused : Refused v path σ) (left : Nat) :
    (makeWith v patience path (left + 1)).outcome σ =
      (makeWith v patience path left).outcome (again v patience path σ) := by
  obtain ⟨σ₁, hrun, -⟩ := attempt_of_refused hclean hflat hrefused
  obtain ⟨ms, hms⟩ := hdelay
  have hannounce : (announce v patience).outcome σ₁ = (.ok (), held v patience path σ) := by
    rw [held, hrun, announce, hms]
    rfl
  rw [makeWith_succ, Action.outcome_bind_ok hrun]
  exact Action.outcome_bind_ok hannounce

/-- There are tries until one is not refused or none is left. -/
theorem tries_makeWith (hpath : v.host.Takes path) (husable : path.Usable)
    (hdelay : ∃ ms, patience.delay.milliseconds = .ok ms) (left : Nat) (σ : Session) :
    ∃ k ≤ left, (∀ i < k, ((again v patience path)^[i] σ).tree.Blocked path.parts) ∧
      ((¬ ((again v patience path)^[k] σ).tree.Blocked path.parts ∧
          ¬ TooSteep v path ((again v patience path)^[k] σ) ∧
          (makeWith v patience path left).outcome σ =
            (.ok path, ((attempt v path).outcome ((again v patience path)^[k] σ)).2)) ∨
        (k = left ∧ ((again v patience path)^[k] σ).tree.Blocked path.parts ∧
          ∃ σ', (makeWith v patience path left).outcome σ =
              (.error (.scratch (.notMade path)), σ') ∧
            ((attempt v path).outcome ((again v patience path)^[k] σ)).2.Reported σ') ∨
        (TooSteep v path ((again v patience path)^[k] σ) ∧
          (makeWith v patience path left).outcome σ =
            (.error (.misuse .depth), ((again v patience path)^[k] σ).stopped))) := by
  -- A try that is not refused is the last one.
  have hlast (left : Nat) (σ : Session) (hfree : ¬ σ.tree.Blocked path.parts) :
      (¬ TooSteep v path σ ∧ (makeWith v patience path left).outcome σ =
          (.ok path, ((attempt v path).outcome σ).2)) ∨
        TooSteep v path σ ∧ (makeWith v patience path left).outcome σ =
          (.error (.misuse .depth), σ.stopped) := by
    by_cases hsteep : TooSteep v path σ
    · exact Or.inr ⟨hsteep, outcome_makeWith_of_tooSteep hpath.clean hsteep left⟩
    · exact Or.inl ⟨hsteep, outcome_makeWith_of_free hpath.clean hsteep
        (mt (refused_iff hpath.settled husable).1 hfree) left⟩
  induction left generalizing σ with
  | zero =>
    refine ⟨0, Nat.le_refl 0, fun i hi => absurd hi (Nat.not_lt_zero i), ?_⟩
    by_cases hblocked : σ.tree.Blocked path.parts
    · exact Or.inr (Or.inl ⟨rfl, hblocked, outcome_makeWith_zero patience hpath.clean
        (not_tooSteep_of_blocked hpath.settled husable hblocked)
        ((refused_iff hpath.settled husable).2 hblocked)⟩)
    · exact (hlast 0 σ hblocked).imp (fun h => ⟨hblocked, h⟩) Or.inr
  | succ left ih =>
    by_cases hblocked : σ.tree.Blocked path.parts
    · -- The tries of the rest come one later.
      obtain ⟨k, hk, hbefore, hend⟩ := ih (again v patience path σ)
      rw [outcome_makeWith_succ hpath.clean hdelay
        (not_tooSteep_of_blocked hpath.settled husable hblocked)
        ((refused_iff hpath.settled husable).2 hblocked)]
      refine ⟨k + 1, Nat.succ_le_succ hk, ?_,
        hend.imp id (Or.imp (fun h => ⟨congrArg _ h.1, h.2⟩) id)⟩
      intro i hi
      cases i with
      | zero => exact hblocked
      | succ i => exact hbefore i (Nat.lt_of_succ_lt_succ hi)
    · exact ⟨0, Nat.zero_le _, fun i hi => absurd hi (Nat.not_lt_zero i),
        (hlast _ σ hblocked).imp (fun h => ⟨hblocked, h⟩) Or.inr⟩

/-- Making the directory is a row of tries with one pause between two of them, and the last try
decides. -/
theorem make_tries {r : Except Fault Path} (hpath : v.host.Takes path) (husable : path.Usable)
    (hdelay : ∃ ms, patience.delay.milliseconds = .ok ms)
    (hrun : (make v patience path).outcome σ = (r, σ')) :
    ∃ k ≤ patience.retries.toNat,
      (∀ i < k, (tryAt v patience path σ i).tree.Blocked path.parts) ∧
      σ'.pauses = σ.pauses + k ∧
      ((r = .ok path ∧ ¬ (tryAt v patience path σ k).tree.Blocked path.parts ∧
          ¬ TooSteep v path (tryAt v patience path σ k) ∧
          ((attempt v path).outcome (tryAt v patience path σ k)).2 = σ') ∨
        (r = .error (.scratch (.notMade path)) ∧ k = patience.retries.toNat ∧
          (tryAt v patience path σ k).tree.Blocked path.parts ∧
          ((attempt v path).outcome (tryAt v patience path σ k)).2.Reported σ') ∨
        (r = .error (.misuse .depth) ∧ TooSteep v path (tryAt v patience path σ k) ∧
          (tryAt v patience path σ k).stopped = σ')) := by
  obtain ⟨τ, hsay, hrep⟩ := v.outcome_say Level.verbose "Preparing \"tmp\" directory..." σ
  have htry (i : Nat) : tryAt v patience path σ i = (again v patience path)^[i] τ := by
    rw [tryAt, Voice.verbose, hsay]
  have hpauses (i : Nat) : (tryAt v patience path σ i).pauses = σ.pauses + i := by
    rw [htry, pauses_iterate hpath.clean, hrep.pauses]
  have htried (i : Nat) :
      ((attempt v path).outcome (tryAt v patience path σ i)).2.pauses = σ.pauses + i :=
    (pauses_attempt hpath.clean _).trans (hpauses i)
  rw [make, Voice.verbose, Action.outcome_bind_ok hsay] at hrun
  obtain ⟨k, hk, hbefore, hlast⟩ := tries_makeWith hpath husable hdelay patience.retries.toNat τ
  simp only [← htry] at hbefore hlast
  refine ⟨k, hk, hbefore, ?_⟩
  rcases hlast with ⟨hfree, hflat, hmade⟩ | ⟨hall, hrefused, σ₁, hstopped, hrep₁⟩ | ⟨hsteep, hstopped⟩
  · rw [hmade] at hrun
    cases hrun
    exact ⟨htried k, Or.inl ⟨rfl, hfree, hflat, rfl⟩⟩
  · rw [hstopped] at hrun
    cases hrun
    exact ⟨hrep₁.pauses.trans (htried k), Or.inr (Or.inl ⟨rfl, hall, hrefused, hrep₁⟩)⟩
  · rw [hstopped] at hrun
    cases hrun
    exact ⟨hpauses k, Or.inr (Or.inr ⟨rfl, hsteep, rfl⟩)⟩

/-! ## Failures leave no trace -/

/-- Nobody else changes the tree in the pause after a try. -/
def Calm (v : Voice) (patience : Patience) (path : Path) (σ : Session) : Prop :=
  v.host.pause ((held v patience path σ).pauses + 1) (held v patience path σ).tree =
    (held v patience path σ).tree

theorem untouched_attempt (hpath : v.host.Takes path) (husable : path.Usable)
    (hblocked : σ.tree.Blocked path.parts) : σ.Untouched ((attempt v path).outcome σ).2 := by
  have hrefused := (refused_iff (v := v) hpath.settled husable).2 hblocked
  obtain ⟨σ', hrun, hrep⟩ := attempt_of_refused hpath.clean
    (not_tooSteep_of_blocked hpath.settled husable hblocked) hrefused
  rw [hrun]
  exact (hrefused.untouched hpath.settled husable).trans (.of_reported hrep)

theorem untouched_again (hpath : v.host.Takes path) (husable : path.Usable)
    (hblocked : σ.tree.Blocked path.parts) (hcalm : Calm v patience path σ) :
    σ.Untouched (again v patience path σ) := by
  have hheld : σ.Untouched (held v patience path σ) :=
    (untouched_attempt hpath husable hblocked).trans (.of_reported (reports_announce v patience _))
  have hwaited : again v patience path σ =
      { (held v patience path σ).withTree v.host (v.host.pause
          ((held v patience path σ).pauses + 1) (held v patience path σ).tree) with
        pauses := (held v patience path σ).pauses + 1 } := rfl
  rw [show v.host.pause _ _ = _ from hcalm] at hwaited
  have hsame := Session.Untouched.withTree (held v patience path σ) v.host
  rw [hwaited]
  exact hheld.trans ⟨hsame.tree, hsame.shape, hsame.look, hsame.log, hsame.scratch⟩

/-- Tries that fail are stopped at the first one, or that is refused. -/
theorem makeWith_error (hpath : v.host.Takes path) (husable : path.Usable) {left : Nat} {f : Fault}
    (hrun : (makeWith v patience path left).outcome σ = (.error f, σ')) :
    σ.stopped = σ' ∨ σ.tree.Blocked path.parts := by
  by_cases hsteep : TooSteep v path σ
  · rw [outcome_makeWith_of_tooSteep hpath.clean hsteep] at hrun
    exact Or.inl (congrArg Prod.snd hrun)
  · refine Or.inr (by_contra fun hfree => ?_)
    rw [outcome_makeWith_of_free hpath.clean hsteep
      (mt (refused_iff hpath.settled husable).1 hfree)] at hrun
    cases hrun

/-- If the directory is not made, and nobody else is at work in the pauses, nothing has happened. -/
theorem untouched_makeWith (hpath : v.host.Takes path) (husable : path.Usable) {left : Nat} {f : Fault}
    (hcalm : ∀ i < left, Calm v patience path ((again v patience path)^[i] σ))
    (hrun : (makeWith v patience path left).outcome σ = (.error f, σ')) : σ.Untouched σ' := by
  induction left generalizing σ with
  | zero =>
    rcases makeWith_error hpath husable hrun with rfl | hblocked
    · exact .stopped σ
    · obtain ⟨τ, hstopped, hrep⟩ := outcome_makeWith_zero patience hpath.clean
        (not_tooSteep_of_blocked hpath.settled husable hblocked)
        ((refused_iff hpath.settled husable).2 hblocked)
      rw [hstopped] at hrun
      cases hrun
      exact (untouched_attempt hpath husable hblocked).trans (.of_reported hrep)
  | succ left ih =>
    rcases makeWith_error hpath husable hrun with rfl | hblocked
    · exact .stopped σ
    have hflat := not_tooSteep_of_blocked (v := v) hpath.settled husable hblocked
    have hrefused := (refused_iff (v := v) hpath.settled husable).2 hblocked
    cases hdelay : patience.delay.milliseconds with
    | error how =>
      obtain ⟨σ₁, hattempt, -⟩ := attempt_of_refused hpath.clean hflat hrefused
      have hthrow : (announce v patience).outcome σ₁ = (.error (.misuse how), σ₁) := by
        rw [announce, hdelay]
        rfl
      have hsame := untouched_attempt hpath husable hblocked
      rw [makeWith_succ, Action.outcome_bind_ok hattempt] at hrun
      rw [hattempt] at hsame
      have hstop := (Action.outcome_bind_error hthrow).symm.trans hrun
      cases hstop
      exact hsame
    | ok ms =>
      rw [outcome_makeWith_succ hpath.clean ⟨ms, hdelay⟩ hflat hrefused] at hrun
      exact (untouched_again hpath husable hblocked (hcalm 0 (Nat.succ_pos left))).trans
        (ih (fun i hi => hcalm (i + 1) (Nat.succ_lt_succ hi)) hrun)

/-! ## Resetting -/

theorem reported_tryAt_zero (v : Voice) (patience : Patience) (path : Path) (σ : Session) :
    σ.Reported (tryAt v patience path σ 0) := by
  obtain ⟨τ, hsay, hrep⟩ := v.outcome_say Level.verbose "Preparing \"tmp\" directory..." σ
  rwa [tryAt, Voice.verbose, hsay]

/-- A directory is made at the first try if nothing is there and nothing is in the way, and it is
empty then.  Otherwise too many are missing above it, and nothing has happened. -/
theorem make_of_free {r : Except Fault Path} (hpath : v.host.Takes path) (husable : path.Usable)
    (hfree : ¬ σ.tree.Blocked path.parts) (hnone : σ.tree.look path.parts = none)
    (hrun : (make v patience path).outcome σ = (r, σ')) :
    (r = .ok path ∧ σ'.tree.EmptyAt path.parts) ∨
      r = .error (.misuse .depth) ∧ TooSteep v path (tryAt v patience path σ 0) ∧
        (tryAt v patience path σ 0).stopped = σ' := by
  obtain ⟨τ, hsay, hrep⟩ := v.outcome_say Level.verbose "Preparing \"tmp\" directory..." σ
  have htry : tryAt v patience path σ 0 = τ := by
    rw [tryAt, Voice.verbose, hsay]
    rfl
  have hmissing : τ.tree.look path.parts = none := by
    rw [← Folder.kindAt_eq_none_iff] at hnone ⊢
    exact (hrep.shape _).symm.trans hnone
  have hfree' : ¬ Refused v path τ := by
    rwa [refused_iff hpath.settled husable, ← hrep.shape.blocked_iff]
  rw [make, Voice.verbose, Action.outcome_bind_ok hsay] at hrun
  rw [htry]
  by_cases hsteep : TooSteep v path τ
  · rw [outcome_makeWith_of_tooSteep hpath.clean hsteep] at hrun
    cases hrun
    exact Or.inr ⟨rfl, hsteep, rfl⟩
  · obtain ⟨σ₁, hattempt, hmade⟩ := attempt_of_free hpath.clean hsteep hfree'
    rw [outcome_makeWith_of_free hpath.clean hsteep hfree', hattempt] at hrun
    cases hrun
    refine Or.inl ⟨rfl, ?_⟩
    rw [← hmade.shape.emptyAt_iff]
    exact Folder.emptyAt_makeDirs hpath.settled (not_not.1 hfree') hmissing

/-- Resetting a directory other than the root leaves it empty, or leaves no trace, or stops because
something lies too deep: in the directory, which is torn then, or above it, and then it is just
cleared. -/
theorem reset_cases {r : Except Fault Path} (hpath : v.host.Takes path) (hne : path.parts ≠ [])
    (husable : path.Usable) (hrun : (reset v patience path).outcome σ = (r, σ')) :
    (r = .ok path ∧ σ'.tree.EmptyAt path.parts) ∨
      (r = .error (.scratch (.notRemoved path)) ∧ σ.Untouched σ') ∨
      r = .error (.misuse .depth) ∧
        ((∃ room, σ.Torn path room σ') ∨
          σ.Cleared path σ' ∧ ∃ τ, TooSteep v path τ ∧ τ.stopped = σ') := by
  obtain ⟨σ₁, hsay, hrep⟩ := v.outcome_say Level.verbose "Will now reset \"tmp\" directory..." σ
  rw [reset, Voice.verbose, Action.outcome_bind_ok hsay] at hrun
  have hsame := Session.Untouched.of_reported hrep
  rcases clear_cases hpath hne σ₁ with ⟨σ₂, hclear, -, hcleared⟩ |
    ⟨σ₂, hclear, -, hkept⟩ | ⟨σ₂, room, hclear, -, -, htorn⟩
  · rw [Action.outcome_bind_ok hclear] at hrun
    rcases make_of_free hpath husable hcleared.free (hcleared.gone _ List.prefix_rfl) hrun with
      hmade | ⟨rfl, hsteep, rfl⟩
    · exact Or.inl hmade
    · refine Or.inr (Or.inr ⟨rfl, Or.inr ⟨hsame.cleared (hcleared.untouched ?_), _, hsteep, rfl⟩⟩)
      exact (Session.Untouched.of_reported (reported_tryAt_zero v patience path σ₂)).trans (.stopped _)
  · rw [Action.outcome_bind_error hclear] at hrun
    cases hrun
    exact Or.inr (Or.inl ⟨rfl, hsame.trans hkept⟩)
  · rw [Action.outcome_bind_error hclear] at hrun
    cases hrun
    exact Or.inr (Or.inr ⟨rfl, Or.inl ⟨room, hsame.torn htorn⟩⟩)

end

/-! ## Runs of calls -/

/-- What a call has done, if it succeeded. -/
inductive Deed where
  /-- The directory was made. -/
  | made
  /-- The directory was cleared. -/
  | cleared
  deriving DecidableEq, Repr

/-- How the directory is marked after a deed. -/
def Deed.emptied : Deed → Bool
  | .made => false
  | .cleared => true

/-- A call. -/
inductive Call where
  /-- Make the directory. -/
  | make
  /-- Remove it. -/
  | clear
  /-- Make it anew. -/
  | reset
  deriving DecidableEq, Repr

/-- Something that happens: a call, or a change of the tree by others. -/
inductive Event where
  /-- A call. -/
  | call (c : Call)
  /-- A change by others. -/
  | change (f : Folder → Folder)

/-- The deed of an action, if it succeeds. -/
def deedOf {α : Type} (d : Deed) (act : Action α) (σ : Session) : List Deed :=
  match act.outcome σ with
  | (.ok _, _) => [d]
  | (.error _, _) => []

section

variable (v : Voice) (patience : Patience) (path : Path)

/-- The session after a call. -/
def Call.after (σ : Session) : Call → Session
  | .make => ((Scratch.make v patience path).outcome σ).2
  | .clear => ((Scratch.clear v path).outcome σ).2
  | .reset => ((Scratch.reset v patience path).outcome σ).2

/-- The deeds of a call.  Resetting clears the directory and makes it. -/
def Call.deeds (σ : Session) : Call → List Deed
  | .make => deedOf .made (Scratch.make v patience path) σ
  | .clear => deedOf .cleared (Scratch.clear v path) σ
  | .reset =>
      match (Scratch.clear v path).outcome
        ((v.verbose "Will now reset \"tmp\" directory...").outcome σ).2 with
      | (.ok _, τ) => .cleared :: deedOf .made (Scratch.make v patience path) τ
      | (.error _, _) => []

/-- The session after an event. -/
def Event.after (σ : Session) : Event → Session
  | .call c => c.after v patience path σ
  | .change f => σ.withTree v.host (f σ.tree)

/-- The deeds of an event; others have none. -/
def Event.deeds (σ : Session) : Event → List Deed
  | .call c => c.deeds v patience path σ
  | .change _ => []

/-- The session after some events. -/
def after : List Event → Session → Session
  | [], σ => σ
  | e :: rest, σ => after rest (e.after v patience path σ)

/-- The deeds of some events. -/
def history : List Event → Session → List Deed
  | [], _ => []
  | e :: rest, σ => e.deeds v patience path σ ++ history rest (e.after v patience path σ)

end

/-! ## The mark -/

/-- Whether the directory was made and has not been cleared since. -/
def Standing (ds : List Deed) : Prop := ∃ front back, ds = front ++ .made :: back ∧ .cleared ∉ back

theorem standing_cons {d : Deed} {ds : List Deed} :
    Standing (d :: ds) ↔ Standing ds ∨ (d = .made ∧ .cleared ∉ ds) := by
  constructor
  · rintro ⟨front, back, heq, hback⟩
    cases front with
    | nil =>
      cases heq
      exact Or.inr ⟨rfl, hback⟩
    | cons d' front =>
      cases heq
      exact Or.inl ⟨front, back, rfl, hback⟩
  · rintro (⟨front, back, rfl, hback⟩ | ⟨rfl, hback⟩)
    · exact ⟨d :: front, back, rfl, hback⟩
    · exact ⟨[], ds, rfl, hback⟩

/-- How the directory is marked after some deeds, given how it was before. -/
def settle (emptied : Bool) (ds : List Deed) : Bool := ds.foldl (fun _ d => d.emptied) emptied

theorem settle_append (emptied : Bool) (ds ds' : List Deed) :
    settle emptied (ds ++ ds') = settle (settle emptied ds) ds' := List.foldl_append

theorem settle_eq_false_iff {emptied : Bool} {ds : List Deed} :
    settle emptied ds = false ↔ Standing ds ∨ (emptied = false ∧ .cleared ∉ ds) := by
  induction ds generalizing emptied with
  | nil => simp [settle, Standing]
  | cons d ds ih =>
    have hstep : settle emptied (d :: ds) = settle d.emptied ds := rfl
    rw [hstep, ih, standing_cons]
    cases d with
    | made => grind [Deed.emptied]
    | cleared => simp [Deed.emptied]

/-- A session whose scratch directory is at a path and has a mark. -/
def MarkedAs (path : Path) (emptied : Bool) (σ : Session) : Prop := σ.scratch = some ⟨path, emptied⟩

section

variable {v : Voice} {patience : Patience} {path : Path} {emptied : Bool} {σ : Session}

theorem MarkedAs.stable : Session.Stable (MarkedAs path emptied) :=
  fun _ _ hσ hrep => hrep.scratch.trans hσ

theorem MarkedAs.marked (h : MarkedAs path emptied σ) (emptied' : Bool) :
    MarkedAs path emptied' (marked emptied' σ) := by
  rw [MarkedAs, Scratch.marked, show σ.scratch = _ from h]
  rfl

/-- Making the directory marks it, unless it fails. -/
theorem markedAs_make (v : Voice) (patience : Patience) (hclean : path.fault? v.host.halves = none) :
    (make v patience path).Ensures (MarkedAs path emptied) (fun _ => MarkedAs path false)
      fun _ => MarkedAs path emptied := by
  refine ensures_make hclean .stable .stable (fun _ => id) ?_ ?_ (.modify fun _ => id) patience
  · intro σ r hσ _ _
    exact (show MarkedAs path emptied (σ.withTree v.host r.2) from hσ).marked false
  · intro σ r hσ _ _
    exact hσ

/-- Clearing the directory marks it, unless it fails. -/
theorem markedAs_clear (v : Voice) (hclean : path.fault? v.host.halves = none) :
    (clear v path).Ensures (MarkedAs path emptied) (fun _ => MarkedAs path true)
      fun _ => MarkedAs path emptied := by
  refine ensures_clear hclean .stable .stable (fun _ => .stable) (fun _ _ _ hσ _ _ => hσ) ?_ ?_
  · intro σ r hσ _ _
    exact (show MarkedAs path emptied (σ.withTree v.host r.2) from hσ).marked true
  · intro σ r e hσ _ _ _
    exact hσ

theorem markedAs_deedOf {α : Type} {d : Deed} {act : Action α}
    (hact : act.Ensures (MarkedAs path emptied) (fun _ => MarkedAs path d.emptied)
      fun _ => MarkedAs path emptied) (hσ : MarkedAs path emptied σ) :
    MarkedAs path (settle emptied (deedOf d act σ)) (act.outcome σ).2 := by
  have hafter := hact σ hσ
  rw [deedOf]
  rcases hrun : act.outcome σ with ⟨r, σ'⟩
  rw [hrun] at hafter
  cases r with
  | ok a => exact hafter
  | error f => exact hafter

/-- The deeds of a call decide how it leaves the directory marked. -/
theorem MarkedAs.call (hclean : path.fault? v.host.halves = none) (hσ : MarkedAs path emptied σ)
    (c : Call) :
    MarkedAs path (settle emptied (c.deeds v patience path σ)) (c.after v patience path σ) := by
  cases c with
  | make => exact markedAs_deedOf (markedAs_make v patience hclean) hσ
  | clear => exact markedAs_deedOf (markedAs_clear v hclean) hσ
  | reset =>
    obtain ⟨σ₁, hsay, hrep⟩ := v.outcome_say Level.verbose "Will now reset \"tmp\" directory..." σ
    have hclear := markedAs_clear v hclean σ₁ (MarkedAs.stable σ σ₁ hσ hrep)
    rw [Call.after, Call.deeds, reset, Voice.verbose, Action.outcome_bind_ok hsay, hsay]
    rcases hcleared : (clear v path).outcome σ₁ with ⟨r, σ₂⟩
    rw [hcleared] at hclear
    cases r with
    | error f =>
      rw [Action.outcome_bind_error hcleared]
      exact hclear
    | ok u =>
      rw [Action.outcome_bind_ok hcleared]
      exact markedAs_deedOf (d := .made) (markedAs_make v patience hclean) hclear

theorem MarkedAs.event (hclean : path.fault? v.host.halves = none) (hσ : MarkedAs path emptied σ)
    (e : Event) :
    MarkedAs path (settle emptied (e.deeds v patience path σ)) (e.after v patience path σ) := by
  cases e with
  | call c => exact hσ.call hclean c
  | change f => exact hσ

/-- The deeds of a run decide how it leaves the directory marked. -/
theorem MarkedAs.after (v : Voice) (patience : Patience) (hclean : path.fault? v.host.halves = none)
    (hσ : MarkedAs path emptied σ) (events : List Event) :
    MarkedAs path (settle emptied (history v patience path events σ))
      (after v patience path events σ) := by
  induction events generalizing emptied σ with
  | nil => exact hσ
  | cons e rest ih =>
    rw [history, settle_append]
    exact ih (hσ.event hclean e)

end

/-! ## All together -/

/-- The life of a scratch directory other than the root, whatever others do to the tree between the
calls and in their pauses.

* It is marked as not cleared exactly if it was made, and has not been cleared since.
* Clearing it leaves nothing at its path, and resetting it leaves an empty directory.
* Making it takes one try more than there are retries at most, with one pause after each try that
  is refused but the last one that is permitted, and fails exactly if all of them are refused.
* A call that fails leaves no trace, if others are at rest in its pauses.

All this is so unless something lies too deep.  Clearing stops then and leaves part of the
directory, and the mark as it was.  Making the directory stops at a try for which too many
directories are missing, and leaves no trace. -/
theorem life_cycle (v : Voice) (patience : Patience) (path : Path) (hpath : v.host.Takes path)
    (hne : path.parts ≠ []) (husable : path.Usable) :
    (∀ (σ₀ : Session) (events : List Event), σ₀.scratch = some ⟨path, true⟩ →
      ∃ emptied, (after v patience path events σ₀).scratch = some ⟨path, emptied⟩ ∧
        (emptied = false ↔ Standing (history v patience path events σ₀))) ∧
    ∀ σ σ' : Session,
      (∀ r, (clear v path).outcome σ = (r, σ') →
        (r = .ok () → ∀ ns, path.parts <+: ns → σ'.tree.look ns = none) ∧
        (r = .error (.misuse .depth) ↔ TooDeep v path (clearing v σ)) ∧
        ∀ f, r = .error f → σ.Untouched σ' ∨ f = .misuse .depth ∧
          ∃ room, v.host.room (clearing v σ).moment = some room ∧ σ.Torn path room σ') ∧
      (∀ r, (reset v patience path).outcome σ = (r, σ') →
        (∀ p, r = .ok p → σ'.tree.EmptyAt path.parts) ∧
        ∀ f, r = .error f → σ.Untouched σ' ∨ f = .misuse .depth ∧
          ((∃ room, σ.Torn path room σ') ∨
            σ.Cleared path σ' ∧ ∃ τ, TooSteep v path τ ∧ τ.stopped = σ')) ∧
      ∀ r, (make v patience path).outcome σ = (r, σ') →
        ((∃ ms, patience.delay.milliseconds = .ok ms) →
          (∃ k ≤ patience.retries.toNat,
            (∀ i < k, (tryAt v patience path σ i).tree.Blocked path.parts) ∧
            σ'.pauses = σ.pauses + k ∧
            ((r = .ok path ∧ ¬ (tryAt v patience path σ k).tree.Blocked path.parts ∧
                ¬ TooSteep v path (tryAt v patience path σ k) ∧
                ((attempt v path).outcome (tryAt v patience path σ k)).2 = σ') ∨
              (r = .error (.scratch (.notMade path)) ∧ k = patience.retries.toNat ∧
                (tryAt v patience path σ k).tree.Blocked path.parts ∧
                ((attempt v path).outcome (tryAt v patience path σ k)).2.Reported σ') ∨
              (r = .error (.misuse .depth) ∧ TooSteep v path (tryAt v patience path σ k) ∧
                (tryAt v patience path σ k).stopped = σ'))) ∧
          (r = .error (.scratch (.notMade path)) ↔
            ∀ i ≤ patience.retries.toNat, (tryAt v patience path σ i).tree.Blocked path.parts)) ∧
        ∀ f, r = .error f →
          (∀ i < patience.retries.toNat, Calm v patience path (tryAt v patience path σ i)) →
          σ.Untouched σ' := by
  refine ⟨fun σ₀ events hfresh => ?_, fun σ σ' => ⟨fun r hrun => ?_, fun r hrun => ?_,
    fun r hrun => ⟨fun hdelay => ?_, ?_⟩⟩⟩
  · have hmark := MarkedAs.after v patience hpath.clean hfresh events
    exact ⟨_, hmark, by simp [settle_eq_false_iff]⟩
  · rcases clear_cases hpath hne σ with ⟨τ, hclear, hshallow, hcleared⟩ |
      ⟨τ, hclear, hshallow, hkept⟩ | ⟨τ, room, hclear, hdeep, hroom, htorn⟩
    · rw [hclear] at hrun
      cases hrun
      exact ⟨fun _ => hcleared.gone, ⟨fun h => (nomatch h), fun h => absurd h hshallow⟩,
        fun f hf => (nomatch hf)⟩
    · rw [hclear] at hrun
      cases hrun
      exact ⟨fun h => (nomatch h), ⟨fun h => (nomatch h), fun h => absurd h hshallow⟩,
        fun _ _ => Or.inl hkept⟩
    · rw [hclear] at hrun
      cases hrun
      refine ⟨fun h => (nomatch h), ⟨fun _ => hdeep, fun _ => rfl⟩, fun f hf => Or.inr ?_⟩
      cases hf
      exact ⟨rfl, room, hroom, htorn⟩
  · rcases reset_cases hpath hne husable hrun with ⟨rfl, hempty⟩ | ⟨rfl, hsame⟩ | ⟨rfl, hstopped⟩
    · exact ⟨fun _ _ => hempty, fun f hf => nomatch hf⟩
    · exact ⟨fun p hp => (nomatch hp), fun _ _ => Or.inl hsame⟩
    · refine ⟨fun p hp => (nomatch hp), fun f hf => Or.inr ?_⟩
      cases hf
      exact ⟨rfl, hstopped⟩
  · have htries := make_tries hpath husable hdelay hrun
    refine ⟨htries, ?_⟩
    obtain ⟨k, hk, hbefore, -, ⟨rfl, hfree, -⟩ | ⟨rfl, rfl, hlast, -⟩ | ⟨rfl, hsteep, -⟩⟩ := htries
    · exact ⟨fun h => (nomatch h), fun hall => absurd (hall k hk) hfree⟩
    · refine ⟨fun _ i hi => ?_, fun _ => rfl⟩
      rcases Nat.lt_or_eq_of_le hi with hlt | rfl
      · exact hbefore i hlt
      · exact hlast
    · refine ⟨fun h => (nomatch h), fun hall => ?_⟩
      exact absurd hsteep (not_tooSteep_of_blocked hpath.settled husable (hall k hk))
  · rintro f rfl hcalm
    obtain ⟨τ, hsay, hrep⟩ := v.outcome_say Level.verbose "Preparing \"tmp\" directory..." σ
    rw [make, Voice.verbose, Action.outcome_bind_ok hsay] at hrun
    simp only [tryAt, Voice.verbose, hsay] at hcalm
    exact (Session.Untouched.of_reported hrep).trans (untouched_makeWith hpath husable hcalm hrun)

/-- Others at work at the root, who clear everything away in a pause. -/
def besides : Voice :=
  ⟨{ cwd := ⟨.root, []⟩, home := ⟨.root, []⟩, tool := ⟨.root, []⟩, temporary := ⟨.root, []⟩,
     pause := fun _ _ => .nil }, "scratch"⟩

/-- A session in which a file is where the scratch directory `s` belongs. -/
def occupied : Session :=
  { tree := .file ['s'] [] .data .nil, scratch := some ⟨⟨.root, [['s']]⟩, true⟩ }

/-- The directory cannot be cleared while the file is there.  It is made at the second try, once the
file has gone, and then stands. -/
theorem life_cycle_occupied :
    (∃ f σ', (clear besides ⟨.root, [['s']]⟩).outcome occupied = (.error f, σ') ∧
      occupied.Untouched σ') ∧
    (∃ σ', (make besides { retries := 1 } ⟨.root, [['s']]⟩).outcome occupied =
        (.ok ⟨.root, [['s']]⟩, σ') ∧ σ'.pauses = 1) ∧
    Standing (history besides { retries := 1 } ⟨.root, [['s']]⟩ [.call .make] occupied) := by
  have hkept : ((clear besides ⟨.root, [['s']]⟩).outcome occupied).1 =
      .error (.scratch (.notRemoved ⟨.root, [['s']]⟩)) := by
    with_unfolding_all rfl
  have hmade : ((make besides { retries := 1 } ⟨.root, [['s']]⟩).outcome occupied).1 =
      .ok ⟨.root, [['s']]⟩ := by
    with_unfolding_all rfl
  have hdelay : ∃ ms, (Patience.delay { retries := 1 }).milliseconds = .ok ms :=
    ⟨100, by with_unfolding_all rfl⟩
  obtain ⟨hmark, hcalls⟩ := life_cycle besides { retries := 1 } ⟨.root, [['s']]⟩
    (by decide) (by decide) ⟨by decide, by decide⟩
  refine ⟨⟨_, _, Prod.ext hkept rfl, ?_⟩, ⟨_, Prod.ext hmade rfl, ?_⟩, ?_⟩
  · refine (((hcalls occupied _).1 _ (Prod.ext hkept rfl)).2.2 _ rfl).resolve_right ?_
    rintro ⟨hdepth, -⟩
    cases hdepth
  · obtain ⟨k, hk, -, hpauses, hlast⟩ :=
      (((hcalls occupied _).2.2 _ (Prod.ext hmade rfl)).1 hdelay).1
    have hfree : ¬ (tryAt besides { retries := 1 } ⟨.root, [['s']]⟩ occupied k).tree.Blocked [['s']] := by
      rcases hlast with ⟨-, hfree, -⟩ | ⟨hfault, -⟩ | ⟨hfault, -⟩
      · exact hfree
      · cases hfault
      · cases hfault
    cases k with
    | zero => exact absurd ⟨[['s']], List.prefix_rfl, by decide⟩ hfree
    | succ k =>
      have hk' : k + 1 ≤ 1 := hk
      have hstart : occupied.pauses = 0 := rfl
      omega
  · obtain ⟨emptied, hafter, hstanding⟩ := hmark occupied [.call .make] rfl
    have hscratch : (after besides { retries := 1 } ⟨.root, [['s']]⟩ [.call .make] occupied).scratch =
        some ⟨⟨.root, [['s']]⟩, false⟩ := by
      with_unfolding_all rfl
    rw [hscratch] at hafter
    cases hafter
    exact hstanding.1 rfl

/-- A host that can remove two levels of directories, and make one above another. -/
def cramped : Voice :=
  ⟨{ cwd := ⟨.root, []⟩, home := ⟨.root, []⟩, tool := ⟨.root, []⟩, temporary := ⟨.root, []⟩,
     room := fun _ => some 2, rungs := fun _ => some 1 }, "scratch"⟩

/-- A session with a scratch directory `s` that holds a file, three directories in one another and
another file. -/
def cluttered : Session :=
  { tree := .dir ['s'] (.file ['a'] [] .data (.dir ['b'] (.dir ['c'] (.dir ['d'] .nil .nil) .nil)
      (.file ['e'] [] .data .nil))) .nil
    scratch := some ⟨⟨.root, [['s']]⟩, false⟩ }

/-- Clearing a directory that is too deep fails with another fault than that it was not removed, and
has removed part of it.  Making a directory fails so at once, without a pause and a second try. -/
theorem clear_tears :
    ((clear cramped ⟨.root, [['s']]⟩).outcome cluttered).1 = .error (.misuse .depth) ∧
    ((clear cramped ⟨.root, [['s']]⟩).outcome cluttered).2.tree =
      .dir ['s'] (.dir ['b'] (.dir ['c'] (.dir ['d'] .nil .nil) .nil) (.file ['e'] [] .data .nil)) .nil ∧
    ((make cramped {} ⟨.root, [['s'], ['x'], ['y'], ['z']]⟩).outcome cluttered).1 =
      .error (.misuse .depth) ∧
    ((make cramped {} ⟨.root, [['s'], ['x'], ['y'], ['z']]⟩).outcome cluttered).2.pauses = 0 := by
  with_unfolding_all exact ⟨rfl, rfl, rfl, rfl⟩

end Scratch
end AmbientBundle
