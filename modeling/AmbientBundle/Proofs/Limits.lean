import AmbientBundle.Proofs.Effects

/-!
# Limits that are not reached

A host limits how deep directories may lie that are made or removed.  A session counts the steps
that were stopped by such a limit, and a run in which none was stopped is the same run on a host
without limits.  So what is proved of hosts without limits holds for every host, as long as the
count stays what it was.

`act.Tracks act'` says this of two actions, of which the second knows no limits: the count never
goes down, and where it stays, both do the same.  Most actions never count, and track themselves
(`of_reports`); the two that do are `Action.removeTree` and `Action.makeDirs`.
-/

namespace AmbientBundle

/-! ## Hosts without limits -/

/-- A host on which directories can be made and removed however deep they lie. -/
structure Host.Boundless (host : Host) : Prop where
  /-- All of them can be removed. -/
  room : ∀ n, host.room n = none
  /-- All of them can be made. -/
  rungs : ∀ n, host.rungs n = none

theorem Host.Boundless.not_limited {host : Host} (h : host.Boundless) (s : Session) (n : Nat) :
    host.room s.moment ≠ some n := by
  rw [h.room]
  exact Option.some_ne_none n ∘ Eq.symm

/-- Without limits directories are just removed. -/
theorem Host.Boundless.removeTree {host : Host} (h : host.Boundless) (p : Path) :
    Action.removeTree host p = Action.onTree host fun cwd tree => tree.removeTree cwd p := by
  rw [Action.removeTree]
  simp only [h.room]
  rfl

/-- Without limits directories are just made. -/
theorem Host.Boundless.makeDirs {host : Host} (h : host.Boundless) (p : Path) :
    Action.makeDirs host p = Action.onTree host fun cwd tree => tree.makeDirs cwd p := by
  rw [Action.makeDirs]
  simp only [h.rungs]
  rfl

/-- The host without its limits. -/
def Host.boundless (host : Host) : Host :=
  { host with room := fun _ => none, rungs := fun _ => none }

theorem Host.boundless_spec (host : Host) : host.boundless.Boundless := ⟨fun _ => rfl, fun _ => rfl⟩

/-- The voice on the host without its limits. -/
def Voice.boundless (v : Voice) : Voice := { v with host := v.host.boundless }

/-! ## Actions that track others -/

namespace Action

/-- In a session an action never takes back a stop, and if it is not stopped, it does what another
action does. -/
def TracksAt {α : Type} (s : Session) (act act' : Action α) : Prop :=
  s.stops ≤ (act.outcome s).2.stops ∧
    ((act.outcome s).2.stops = s.stops → act'.outcome s = act.outcome s)

/-- An action that does so in every session. -/
def Tracks {α : Type} (act act' : Action α) : Prop := ∀ s, TracksAt s act act'

section

variable {α β : Type} {act act' : Action α} {next next' : α → Action β} {s : Session}

namespace TracksAt

theorem bind (hact : TracksAt s act act')
    (hnext : ∀ a t, act.outcome s = (.ok a, t) → TracksAt t (next a) (next' a)) :
    TracksAt s (act >>= next) (act' >>= next') := by
  obtain ⟨hle, hsame⟩ := hact
  rcases hrun : act.outcome s with ⟨r, t⟩
  rw [hrun] at hle hsame
  cases r with
  | error f =>
    rw [TracksAt, outcome_bind_error hrun]
    exact ⟨hle, fun hstops => outcome_bind_error (hsame hstops)⟩
  | ok a =>
    obtain ⟨hle', hsame'⟩ := hnext a t hrun
    rw [TracksAt, outcome_bind_ok hrun]
    refine ⟨Nat.le_trans hle hle', fun hstops => ?_⟩
    -- Where the whole is not stopped, its first part is not.
    have hfirst : t.stops = s.stops := Nat.le_antisymm (hstops ▸ hle') hle
    rw [outcome_bind_ok (hsame hfirst)]
    exact hsame' (hstops.trans hfirst.symm)

theorem onTree {host host' : Host} (hcwd : host'.cwd = host.cwd) (f : Spot → Folder → α × Folder) :
    TracksAt s (Action.onTree host f) (Action.onTree host' f) := by
  have hsame : Action.onTree host' f = Action.onTree host f := by
    simp only [Action.onTree, Session.spot, Session.withTree, Host.spot, hcwd]
  rw [hsame]
  exact ⟨Nat.le_refl _, fun _ => rfl⟩

/-- What stops counts, whatever the other action does. -/
theorem tooDeep : TracksAt s Action.tooDeep act :=
  ⟨Nat.le_succ _, fun hstops => absurd hstops (Nat.succ_ne_self _)⟩

end TracksAt

namespace Tracks

/-- An action that only reports never stops. -/
theorem of_reports (h : act.Reports) : Tracks act act := fun s =>
  ⟨Nat.le_of_eq (h s).stops.symm, fun _ => rfl⟩

theorem pure (a : α) : Tracks (Pure.pure a : Action α) (Pure.pure a) := .of_reports (.pure a)

theorem throw (f : Fault) : Tracks (MonadExcept.throw f : Action α) (MonadExcept.throw f) :=
  .of_reports (.throw f)

theorem ofExcept (r : Except Fault α) : Tracks (Action.ofExcept r) (Action.ofExcept r) := by
  cases r with
  | ok a => exact .pure a
  | error f => exact .throw f

theorem say (v : Voice) (level : Level) (message : String) :
    Tracks (v.say level message) (v.say level message) :=
  .of_reports (.say v level message)

theorem modify {g : Session → Session} (hstops : ∀ s, (g s).stops = s.stops) :
    Tracks (modify g : Action PUnit) (modify g) := fun s => ⟨Nat.le_of_eq (hstops s).symm, fun _ => rfl⟩

/-- An action that never counts tracks itself. -/
theorem of_keeps (h : ∀ n, act.Keeps fun s => s.stops = n) : Tracks act act := by
  intro s
  have hstops : (act.outcome s).2.stops = s.stops := by
    rcases hrun : act.outcome s with ⟨r, t⟩
    cases r with
    | ok a => exact (h s.stops).of_ok rfl hrun
    | error f => exact (h s.stops).of_error rfl hrun
  exact ⟨Nat.le_of_eq hstops.symm, fun _ => rfl⟩

theorem bind (hact : Tracks act act') (hnext : ∀ a, Tracks (next a) (next' a)) :
    Tracks (act >>= next) (act' >>= next') :=
  fun s => (hact s).bind fun a t _ => hnext a t

theorem get_bind {k k' : Session → Action β} (h : ∀ s, TracksAt s (k s) (k' s)) :
    Tracks (get >>= k) (get >>= k') := h

theorem onTree {host host' : Host} (hcwd : host'.cwd = host.cwd) (f : Spot → Folder → α × Folder) :
    Tracks (Action.onTree host f) (Action.onTree host' f) := fun _ => .onTree hcwd f

theorem tryCatch {handle handle' : Fault → Action α} (hact : Tracks act act')
    (hhandle : ∀ f, Tracks (handle f) (handle' f)) :
    Tracks (MonadExcept.tryCatch act handle) (MonadExcept.tryCatch act' handle') := by
  intro s
  obtain ⟨hle, hsame⟩ := hact s
  rcases hrun : act.outcome s with ⟨r, t⟩
  rw [hrun] at hle hsame
  rw [TracksAt, outcome_tryCatch, outcome_tryCatch, hrun]
  cases r with
  | ok a => exact ⟨hle, fun hstops => by rw [hsame hstops]⟩
  | error f =>
    obtain ⟨hle', hsame'⟩ := hhandle f t
    refine ⟨Nat.le_trans hle hle', fun hstops => ?_⟩
    have hfirst : t.stops = s.stops := Nat.le_antisymm (hstops ▸ hle') hle
    rw [hsame hfirst]
    exact hsame' (hstops.trans hfirst.symm)

theorem observe (h : Tracks act act') : Tracks act.observe act'.observe := fun s => by
  rw [TracksAt, outcome_observe, outcome_observe]
  exact ⟨(h s).1, fun hstops => by rw [(h s).2 hstops]⟩

/-- A run that is not stopped is one of the other action. -/
theorem outcome_eq (h : Tracks act act') {t : Session} {r : Except Fault α}
    (hrun : act.outcome s = (r, t)) (hstops : t.stops = s.stops) : act'.outcome s = (r, t) := by
  rw [← hrun]
  exact (h s).2 (by rw [hrun]; exact hstops)

/-! ## The steps that have limits -/

theorem removeTree (host : Host) (p : Path) :
    Tracks (Action.removeTree host p) (Action.removeTree host.boundless p) := by
  rw [Action.removeTree, Action.removeTree]
  refine .get_bind fun s => ?_
  split
  · exact ⟨Nat.le_succ _, fun hstops => absurd hstops (Nat.succ_ne_self _)⟩
  · exact .onTree rfl _

theorem makeDirs (host : Host) (p : Path) :
    Tracks (Action.makeDirs host p) (Action.makeDirs host.boundless p) := by
  rw [Action.makeDirs, Action.makeDirs]
  refine .get_bind fun s => ?_
  have hfree : (host.boundless.rungs s.moment).any
      (fun n => n < s.tree.climb (s.spot host.boundless) p) = false := rfl
  rw [hfree]
  split
  · exact .tooDeep
  · exact .onTree rfl _

end Tracks
end
end Action
end AmbientBundle
