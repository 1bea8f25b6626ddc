import AmbientBundle.Generate
import AmbientBundle.Proofs.Report

/-!
# Before and after an action

`act.Ensures P Q E` says what holds after an action that is run where `P` holds: `Q a` if it gives
`a`, `E f` if it fails with `f`.  The session is kept in either case, so a failure
has as much to promise as a success.  There is one rule for each way to build actions, and a proof
about a step follows the text of the step.

An action that only reports keeps whatever reports cannot change (`Session.Stable`).  At the end
are the steps of a run that only report.
-/

namespace AmbientBundle

/-- A property of sessions that reports cannot change. -/
def Session.Stable (I : Session → Prop) : Prop := ∀ s s', I s → s.Reported s' → I s'

namespace Action

theorem outcome_tryCatch {α : Type} (act : Action α) (handle : Fault → Action α) (s : Session) :
    (tryCatch act handle).outcome s =
      match act.outcome s with
      | (.ok a, s') => (.ok a, s')
      | (.error f, s') => (handle f).outcome s' := by
  simp only [outcome, tryCatch, tryCatchThe, MonadExceptOf.tryCatch, ExceptT.tryCatch, ExceptT.run,
    ExceptT.mk, StateT.run_bind]
  rcases StateT.run act s with ⟨r, s'⟩
  cases r with
  | ok a => rfl
  | error f => rfl

theorem outcome_observe {α : Type} (act : Action α) (s : Session) :
    act.observe.outcome s = (.ok (act.outcome s).1, (act.outcome s).2) := by
  rw [observe, outcome_tryCatch, outcome_bind]
  rcases act.outcome s with ⟨r, s'⟩
  cases r with
  | ok a => rfl
  | error f => rfl

/-- It does not matter whether the start of an action is observed, if its faults are thrown
again. -/
theorem observe_bind {α β γ : Type} (act : Action α) (next : α → Action β)
    (heed : Except Fault β → Action γ)
    (h : ∀ s f t, act.outcome s = (.error f, t) → heed (.error f) = throw f) :
    ((act >>= next).observe >>= heed) = act >>= fun a => (next a).observe >>= heed := by
  refine funext fun s => ?_
  change ((act >>= next).observe >>= heed).outcome s =
    (act >>= fun a => (next a).observe >>= heed).outcome s
  rcases hrun : act.outcome s with ⟨r, t⟩
  rw [outcome_bind, outcome_observe]
  cases r with
  | ok a => rw [outcome_bind_ok hrun, outcome_bind_ok hrun, outcome_bind, outcome_observe]
  | error f =>
    rw [outcome_bind_error hrun, outcome_bind_error hrun]
    simp only
    rw [h s f t hrun]
    rfl

/-- What holds after an action, given what holds before. -/
def Ensures {α : Type} (P : Session → Prop) (act : Action α) (Q : α → Session → Prop)
    (E : Fault → Session → Prop) : Prop :=
  ∀ s, P s →
    match act.outcome s with
    | (.ok a, s') => Q a s'
    | (.error f, s') => E f s'

/-- An action that keeps a property, whatever its result. -/
abbrev Keeps {α : Type} (I : Session → Prop) (act : Action α) : Prop :=
  act.Ensures I (fun _ => I) fun _ => I

namespace Ensures

variable {α β : Type} {P P' I : Session → Prop} {act : Action α} {next : α → Action β}
  {Q : α → Session → Prop} {E : Fault → Session → Prop}

theorem of_ok (h : act.Ensures P Q E) {s s' : Session} {a : α} (hs : P s)
    (hrun : act.outcome s = (.ok a, s')) : Q a s' := by
  have hafter := h s hs
  rwa [hrun] at hafter

theorem of_error (h : act.Ensures P Q E) {s s' : Session} {f : Fault} (hs : P s)
    (hrun : act.outcome s = (.error f, s')) : E f s' := by
  have hafter := h s hs
  rwa [hrun] at hafter

theorem weaken {R : α → Session → Prop} {F : Fault → Session → Prop}
    (h : act.Ensures P Q E) (hP : ∀ s, P' s → P s) (hQ : ∀ a s, Q a s → R a s)
    (hE : ∀ f s, E f s → F f s) : act.Ensures P' R F := by
  intro s hs
  have hafter := h s (hP s hs)
  rcases hrun : act.outcome s with ⟨r, s'⟩
  rw [hrun] at hafter
  cases r with
  | ok a => exact hQ a s' hafter
  | error f => exact hE f s' hafter

theorem and {R : α → Session → Prop} {F : Fault → Session → Prop} (h : act.Ensures P Q E)
    (h' : act.Ensures P' R F) :
    act.Ensures (fun s => P s ∧ P' s) (fun a s => Q a s ∧ R a s) fun f s => E f s ∧ F f s := by
  intro s hs
  have hafter := h s hs.1
  have hafter' := h' s hs.2
  rcases hrun : act.outcome s with ⟨r, s'⟩
  rw [hrun] at hafter hafter'
  cases r with
  | ok a => exact ⟨hafter, hafter'⟩
  | error f => exact ⟨hafter, hafter'⟩

/-- An action that goes on like another one, from a given session. -/
theorem of_outcome_eq {before : Action α} (h : act.Ensures P Q E) {s s' : Session} (hs : P s)
    (hrun : before.outcome s' = act.outcome s) : before.Ensures (· = s') Q E := by
  intro t ht
  rw [ht, hrun]
  exact h s hs

theorem pure {a : α} (h : ∀ s, P s → Q a s) : (Pure.pure a : Action α).Ensures P Q E := h

theorem throw {f : Fault} (h : ∀ s, P s → E f s) :
    (MonadExcept.throw f : Action α).Ensures P Q E := h

theorem modify {g : Session → Session} {Q : PUnit → Session → Prop}
    (h : ∀ s, P s → Q ⟨⟩ (g s)) : (modify g : Action PUnit).Ensures P Q E := h

theorem set {σ : Session} {Q : PUnit → Session → Prop} (h : ∀ s, P s → Q ⟨⟩ σ) :
    (set σ : Action PUnit).Ensures P Q E := h

/-- What an action leaves to the next one is what the next one starts with. -/
theorem bind {R : β → Session → Prop} (hact : act.Ensures P Q E)
    (hnext : ∀ a, (next a).Ensures (Q a) R E) :
    (act >>= next).Ensures P R E := by
  intro s hs
  have hafter := hact s hs
  rw [outcome_bind]
  rcases hrun : act.outcome s with ⟨r, s'⟩
  rw [hrun] at hafter
  cases r with
  | error f => exact hafter
  | ok a => exact hnext a s' hafter

/-- What an action gave, and where, may be used for the next one. -/
theorem bind_of_outcome {R : β → Session → Prop} (hact : act.Ensures P Q E)
    (hnext : ∀ s a, P s → ∀ s', act.outcome s = (.ok a, s') → Q a s' →
      (next a).Ensures (· = s') R E) :
    (act >>= next).Ensures P R E := by
  intro s hs
  have hafter := hact s hs
  rw [outcome_bind]
  rcases hrun : act.outcome s with ⟨r, s'⟩
  rw [hrun] at hafter
  cases r with
  | error f => exact hafter
  | ok a => exact hnext s a hs s' hrun hafter s' rfl

theorem get_bind {k : Session → Action β} {R : β → Session → Prop}
    (h : ∀ s, P s → (k s).Ensures (· = s) R E) : (get >>= k).Ensures P R E :=
  fun s hs => h s hs s rfl

/-- Nothing has to be shown of nothing. -/
theorem idle : act.Ensures P (fun _ _ => True) fun _ _ => True := by
  intro s _
  rcases act.outcome s with ⟨r, s'⟩
  cases r <;> trivial

/-- A failure that is kept as a result is no failure any more. -/
theorem observe {R : Except Fault α → Session → Prop} {F : Fault → Session → Prop}
    (h : act.Ensures P (fun a => R (.ok a)) fun f => R (.error f)) :
    act.observe.Ensures P R F := by
  intro s hs
  have hafter := h s hs
  rw [outcome_observe]
  rcases hrun : act.outcome s with ⟨r, s'⟩
  rw [hrun] at hafter
  cases r with
  | ok a => exact hafter
  | error f => exact hafter

theorem tryCatch {handle : Fault → Action α} {F : Fault → Session → Prop}
    (hact : act.Ensures P Q F) (hhandle : ∀ f, (handle f).Ensures (F f) Q E) :
    (MonadExcept.tryCatch act handle).Ensures P Q E := by
  intro s hs
  have hafter := hact s hs
  rw [outcome_tryCatch]
  rcases hrun : act.outcome s with ⟨r, s'⟩
  rw [hrun] at hafter
  cases r with
  | ok a => exact hafter
  | error f => exact hhandle f s' hafter

theorem onTree {host : Host} {f : Spot → Folder → α × Folder}
    (h : ∀ s, P s → Q (f (s.spot host) s.tree).1 (s.withTree host (f (s.spot host) s.tree).2)) :
    (Action.onTree host f).Ensures P Q E := h

theorem of_reports (hact : act.Reports) (hI : Session.Stable I) : act.Keeps I := by
  intro s hs
  have hrep := hact s
  rcases hrun : act.outcome s with ⟨r, s'⟩
  rw [hrun] at hrep
  cases r with
  | ok a => exact hI s s' hs hrep
  | error f => exact hI s s' hs hrep

theorem of_gives {r : Except Fault α} (hact : act.Gives r) (hI : Session.Stable I) :
    act.Ensures I (fun a s => r = .ok a ∧ I s) fun f s => r = .error f ∧ I s := by
  intro s hs
  obtain ⟨s', hrun, hrep⟩ := hact s
  rw [hrun]
  cases r with
  | ok a => exact ⟨rfl, hI s s' hs hrep⟩
  | error f => exact ⟨rfl, hI s s' hs hrep⟩

/-- A message is never refused. -/
theorem say (hI : Session.Stable I) (v : Voice) (level : Level) (message : String) :
    (v.say level message).Ensures I (fun _ => I) E := by
  intro s hs
  obtain ⟨s', hrun, hrep⟩ := v.outcome_say level message s
  rw [hrun]
  exact hI s s' hs hrep

theorem checkPath {host : Host} {p : Path} (hclean : p.fault? host.halves = none) :
    (Action.checkPath host p).Ensures I (fun _ => I) E := by
  rw [Action.checkPath, hclean]
  exact .pure fun _ => id

theorem ofExcept (r : Except Fault α) : (Action.ofExcept r).Keeps I := by
  cases r with
  | ok a => exact .pure fun _ => id
  | error f => exact .throw fun _ => id

end Ensures
end Action

/-! ## Steps that only report -/

theorem Manifest.gives_refuse {α : Type} (v : Voice) (path : Path) (reason : String)
    (cause : ManifestFault) :
    (refuse v path reason cause : Action α).Gives (.error (.manifest cause)) :=
  .bind (.say _ _ _) (.bind (.say _ _ _) (.throw _))

theorem Manifest.reports_read (v : Voice) (root : Path) : (read v root).Reports := by
  rw [Manifest.read]
  refine .bind (.say _ _ _) fun _ => .bind (.checkPath _ _) fun _ => .bind .get fun s => ?_
  split
  · exact .of_gives (gives_refuse _ _ _ _)
  · split
    · exact .of_gives (gives_refuse _ _ _ _)
    · exact .throw _
    · split
      · exact .throw _
      · exact .bind (.say _ _ _) fun _ => .pure _

theorem Settings.blind_policyOf (v : Voice) (x : Value) : (policyOf v x).Blind := by
  rw [policyOf]
  split
  · exact .pure _
  · exact .bind (.say _ _ _) fun _ => .pure _

/-- What follows a launch is a fault or a report. -/
theorem Compiler.blind_conclude (c : Compiler) (o : Outcome) : (c.conclude o).Blind := by
  have hlast : Action.Blind (do
      c.voice.verbose "Per-file typings have been generated using TSC!"
      pure o) :=
    .bind (.say _ _ _) fun _ => .pure _
  have hshown : Action.Blind (do
      if !Text.isAllBlank o.output then c.voice.info (Text.toString (Text.stripEnd o.output))
      c.voice.verbose "Per-file typings have been generated using TSC!"
      pure o) := by
    split
    · exact .bind (.say _ _ _) fun _ => hlast
    · exact hlast
  rw [conclude]
  cases o.success with
  | false => exact .bind (.throw _) fun _ => hshown
  | true => exact hshown

namespace Bundle.Aggregator

variable (a : Aggregator)

theorem blind_mainModule : a.mainModule.Blind := by
  rw [mainModule]
  split
  · refine .bind (.say _ _ _) fun _ => .bind (.throw _) fun _ => ?_
    split
    · exact .pure _
    · exact .throw _
  · split
    · exact .pure _
    · exact .throw _

theorem reports_listFiles (dir : Path) : (a.listFiles dir).Reports := by
  rw [listFiles]
  refine .bind (.say _ _ _) fun _ => .bind (.checkPath _ _) fun _ => .bind .get fun s => ?_
  split
  · exact .bind (.say _ _ _) fun _ => .bind (.say _ _ _) fun _ => .throw _
  · exact .bind (.say _ _ _) fun _ => .pure _

theorem blind_readTexts (files : List FoundFile) : (a.readTexts files).Blind := by
  induction files with
  | nil => exact .pure _
  | cons f rest ih =>
    rw [readTexts]
    split
    · exact .bind (.say _ _ _) fun _ => .bind (.say _ _ _) fun _ => .throw _
    · exact .bind ih fun _ => .pure _

theorem reports_loadDeclarations (dir : Path) : (a.loadDeclarations dir).Reports :=
  .bind (a.reports_listFiles dir) fun files => .bind (a.blind_readTexts files).reports fun _ =>
    .bind (.say _ _ _) fun _ => .bind .get fun _ => .bind (.say _ _ _) fun _ => .pure _

theorem blind_reportRedirects (v : Voice) (rs : List Import.Redirect) :
    (reportRedirects v rs).Blind := by
  induction rs with
  | nil => exact .pure _
  | cons r rest ih => exact .bind (.say _ _ _) fun _ => ih

theorem blind_combine (d : Declarations) : (a.combine d).Blind :=
  .bind (.say _ _ _) fun _ => .bind (.needWorkingDir _) fun _ =>
    .bind (blind_reportRedirects _ _) fun _ => .pure _

theorem blind_reportSkipped (v : Voice) (ms : List ModuleId) : (reportSkipped v ms).Blind := by
  induction ms with
  | nil => exact .pure _
  | cons m rest ih => exact .bind (.say _ _ _) fun _ => ih

theorem blind_reportVisits (v : Voice) (d : Declarations) (policy : ShakePolicy)
    (ms : List ModuleId) : (reportVisits v d policy ms).Blind := by
  induction ms with
  | nil => exact .pure _
  | cons m rest ih =>
    exact .bind (.say _ _ _) fun _ => .bind (blind_reportSkipped _ _) fun _ => ih

theorem blind_reach (v : Voice) (d : Declarations) (entry : ModuleId) (policy : ShakePolicy) :
    (reach v d entry policy).Blind := by
  rw [reach]
  split
  · exact .throw _
  · split
    · exact .bind (blind_reportVisits _ _ _ _) fun _ => .pure _
    · exact .pure _

theorem blind_shake (d : Declarations) (main : ModuleId) : (a.shake d main).Blind := by
  rw [shake]
  split
  · exact .pure _
  · refine .bind (.say _ _ _) fun _ => .bind (blind_reach _ _ _ _) fun kept => ?_
    dsimp only
    split
    · exact .bind (.say _ _ _) fun _ => .pure _
    · exact .pure _

theorem blind_addAlias (source : Text) (main : ModuleId) : (a.addAlias source main).Blind := by
  rw [addAlias]
  split
  · refine .bind (.say _ _ _) fun _ => ?_
    split
    · exact .pure _
    · exact .throw _
  · split
    · exact .bind (.say _ _ _) fun _ => .bind (.say _ _ _) fun _ => .pure _
    · exact .pure _

theorem blind_addTemplate (source : Text) (main : ModuleId) :
    (a.addTemplate source main).Blind := by
  rw [addTemplate]
  split
  · refine .bind (.say _ _ _) fun _ => ?_
    split
    · exact .pure _
    · exact .throw _
  · exact .pure _

theorem blind_assemble (loaded : Declarations) (main : ModuleId) :
    (a.assemble loaded main).Blind := by
  rw [assemble]
  refine .bind (a.blind_combine loaded) fun d => .bind (a.blind_shake d main) fun kept =>
    .bind (.bind (.say _ _ _) fun _ => .pure _) fun source => ?_
  have hrest : Action.Blind (do
      let source ← a.addAlias source main
      a.addTemplate source main) :=
    .bind (a.blind_addAlias source main) fun source => a.blind_addTemplate source main
  split
  · exact .bind (.say _ _ _) fun _ => hrest
  · exact hrest

end Bundle.Aggregator

namespace Generator

variable (g : Generator)

theorem blind_detail (f : Fault) : (g.detail f).Blind := .say _ _ _

/-- Whatever became of the compiler, there are only reports to come. -/
theorem blind_heed (s : Settings) (r : Except Fault Outcome) : (g.heed s r).Blind := by
  rw [heed.eq_def]
  split
  · exact .pure _
  · split
    · exact .bind (.say _ _ _) fun _ => .bind (.say _ _ _) fun _ =>
        .bind (g.blind_detail _) fun _ => .say _ _ _
    · exact .bind (.say _ _ _) fun _ => .throw _
  · exact .throw _

end Generator
end AmbientBundle
