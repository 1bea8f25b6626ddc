import AmbientBundle.Proofs.Generate.Ground
import AmbientBundle.Proofs.Scratch

/-!
# The phases of a run

A run makes its scratch directory anew, has the compiler write into it, reads what is there, clears
the directory and stores the bundle.  What is true of the session depends on how far the run has
come: before the directory is made anew, while it is in use, once it is cleared, and when a step has
failed.

`Phases` lists what has to be shown of each of these: that each step which changes something leads
from its phase to the next one or to failure, and that reports change nothing.  `Phases.bundled`
puts the steps up to the text of the bundle together once and for all, given what the launch of the
compiler does, and `ensures_steps` adds what storing it does.
-/

namespace AmbientBundle
namespace Generator

/-- The steps of a run up to the text of the bundle, given its scratch directory. -/
def bundled (g : Generator) (s : Settings) (path : Path) : Action Text := do
  modify fun t => { t with scratch := some { path } }
  g.emit s path
  let a ← g.aggregator s path
  a.aggregate path (some (g.voice, path))

/-- The steps of a run, given its scratch directory: the text that was aggregated and the path it
was stored at. -/
def steps (g : Generator) (s : Settings) (path : Path) : Action (Text × Path) := do
  let source ← g.bundled s path
  let target ← g.store s source
  pure (source, target)

theorem work_eq (g : Generator) (s : Settings) (path : Path) :
    g.work s path = (do
      let stored ← g.steps s path
      pure stored.2) := by
  simp only [work, steps, bundled, bind_assoc, pure_bind, bind_pure]

/-- What a run starts with: its greeting and its directories. -/
def begin (g : Generator) (s : Settings) : Action (Path × Option Path) := do
  g.voice.info ("Generating declarations for \"" ++ Text.toString s.root.toText ++ "\"...")
  g.locate s

/-- What a run makes ready for its compiler, given its scratch directory: that directory, made anew,
and the launch. -/
def ready (g : Generator) (s : Settings) (path : Path) : Action Launch := do
  modify fun t => { t with scratch := some { path } }
  let _ ← Scratch.reset g.voice {} path
  g.prepare s path

/-- What a run does up to the launch of its compiler. -/
def approach (g : Generator) (s : Settings) : Action Launch := do
  let located ← g.begin s
  g.ready s located.1

/-- What a run does with a launch. -/
def compile (g : Generator) (s : Settings) (l : Launch) : Action Unit := do
  let compiled ← (g.compiler.run l).observe
  g.heed s compiled

/-- What a run does from the launch of its compiler up to the text of the bundle. -/
def harvest (g : Generator) (s : Settings) (path : Path) (l : Launch) : Action Text := do
  g.compile s l
  let a ← g.aggregator s path
  a.aggregate path (some (g.voice, path))

/-- Whether a launch can be prepared depends neither on the compiler nor on the directory.  If it
cannot, that is no fault of the compiler. -/
theorem gives_prepare (g : Generator) (s : Settings) :
    (∃ options dir, ∀ c path, (prepare { g with compiler := c } s path).Gives
      (.ok (c.launchIn dir (Compiler.baseCommand c.executable path ++ options)))) ∨
    ∃ f, (∀ cause, f ≠ .compiler cause) ∧
      ∀ c path, (prepare { g with compiler := c } s path).Gives (.error f) := by
  rcases Compiler.command_cases s.tsc with ⟨options, hcommand⟩ | ⟨f, hf, hcommand⟩
  · have hannounced (c : Compiler) (path : Path) : (c.announce path s.tsc).Gives
        (.ok (Compiler.baseCommand c.executable path ++ options)) := by
      rw [Compiler.announce, hcommand]
      exact .bind (.pure _) (.bind (.say _ _ _) (.bind (.say _ _ _) (.pure _)))
    have hdir (c : Compiler) : compilerDirectory { g with compiler := c } s = g.compilerDirectory s :=
      rfl
    cases hpath : (g.compilerDirectory s).toPath with
    | ok dir =>
      refine Or.inl ⟨options, dir, fun c path => .bind (hannounced c path) ?_⟩
      rw [hdir, hpath]
      exact .bind (.pure dir) (.pure _)
    | error f =>
      refine Or.inr ⟨f, Setting.toPath_ne_compiler hpath, fun c path => .bind (hannounced c path) ?_⟩
      rw [hdir, hpath]
      exact .bind_error (.throw f)
  · refine Or.inr ⟨f, hf, fun c path => .bind_error ?_⟩
    rw [Compiler.announce, hcommand]
    exact .bind_error (.throw f)

/-- A fault of anything but the compiler stops a run. -/
theorem heed_error {g : Generator} {s : Settings} {f : Fault} (hf : ∀ cause, f ≠ .compiler cause) :
    g.heed s (.error f) = throw f := by
  cases f with
  | compiler cause => exact absurd rfl (hf cause)
  | _ => rfl

theorem bundled_eq (g : Generator) (s : Settings) (path : Path) :
    g.bundled s path = (do
      let l ← g.ready s path
      g.harvest s path l) := by
  have hprepared := Action.observe_bind (g.prepare s path) g.compiler.run (fun compiled => do
    g.heed s compiled
    let a ← g.aggregator s path
    a.aggregate path (some (g.voice, path))) fun σ f τ hrun => ?_
  · simp only [bundled, emit, ready, harvest, compile, bind_assoc, hprepared]
  · have hf (cause : CompilerFault) : f ≠ .compiler cause := by
      rcases g.gives_prepare s with ⟨options, dir, hgives⟩ | ⟨f', hf', hgives⟩
      · cases ((hgives g.compiler path).of_outcome hrun).1
      · cases ((hgives g.compiler path).of_outcome hrun).1
        exact hf' cause
    rw [heed_error hf]
    rfl

/-- What a run does up to the text of the bundle. -/
def gather (g : Generator) (s : Settings) : Action Text := do
  let located ← g.begin s
  g.bundled s located.1

/-- What a run attempts: its start and its steps. -/
def attempt (g : Generator) (s : Settings) : Action (Text × Path) := do
  let located ← g.begin s
  g.steps s located.1

/-- A session after a launch. -/
def launched (c : Compiler) (l : Launch) (σ : Session) : Session :=
  Session.withTree { σ with launches := σ.launches ++ [l] } c.voice.host
    (c.launcher l (σ.spot c.voice.host) σ.tree).2

theorem ensures_launch {c : Compiler} {l : Launch} {σ : Session} {I : Session → Prop}
    (h : I (launched c l σ)) : (c.launch l).Ensures (· = σ) (fun _ => I) fun _ => I := by
  rw [Compiler.launch]
  refine .bind (Q := fun _ τ => τ = { σ with launches := σ.launches ++ [l] })
    (.modify fun τ hτ => by rw [hτ]) fun _ => .bind (Q := fun _ => I) (.onTree ?_) fun r => .ofExcept r
  rintro τ rfl
  exact h

/-- The launch is one that writes into the directory, and preparing it is reports only. -/
theorem ensures_prepare {g : Generator} {s : Settings} {path : Path} {I : Session → Prop}
    (hI : Session.Stable I) :
    (g.prepare s path).Ensures I
      (fun l σ => (∃ options dir, l = g.compiler.launchIn dir
        (Compiler.baseCommand g.compiler.executable path ++ options)) ∧ I σ) fun _ => I := by
  rcases g.gives_prepare s with ⟨options, dir, hgives⟩ | ⟨f, -, hgives⟩
  · refine (Action.Ensures.of_gives (hgives g.compiler path) hI).weaken (fun _ => id)
      (fun l σ hσ => ⟨⟨options, dir, ?_⟩, hσ.2⟩) fun _ _ hσ => hσ.2
    exact (Except.ok.inj hσ.1).symm
  · refine (Action.Ensures.of_gives (hgives g.compiler path) hI).weaken (fun _ => id)
      (fun l σ hσ => ?_) fun _ _ hσ => hσ.2
    cases hσ.1

/-- What has to be shown of the phases of a run. -/
structure Phases (g : Generator) (s : Settings) (path : Path)
    (fresh made cleared failed : Session → Prop) : Prop where
  /-- Reports do not matter while the scratch directory is in use. -/
  stable_made : Session.Stable made
  /-- Nor do they once it is cleared. -/
  stable_cleared : Session.Stable cleared
  /-- The manifest is read, or known already. -/
  manifest : (g.manifest s).Keeps made
  /-- The scratch directory is made anew. -/
  reset : (Scratch.reset g.voice {} path).Ensures fresh (fun _ => made) fun _ => failed
  /-- The scratch directory is cleared. -/
  clear : (Scratch.clear g.voice path).Ensures made (fun _ => cleared) fun _ => failed
  /-- A run may fail while the directory is in use. -/
  failed_of_made : ∀ σ, made σ → failed σ
  /-- Or later. -/
  failed_of_cleared : ∀ σ, cleared σ → failed σ

namespace Phases

variable {g : Generator} {s : Settings} {path : Path} {fresh made cleared failed : Session → Prop}

theorem ready (h : Phases g s path fresh made cleared failed) {P : Session → Prop}
    (hP : ∀ σ, P σ → fresh { σ with scratch := some { path } }) :
    (g.ready s path).Ensures P
      (fun l σ => (∃ options dir, l = g.compiler.launchIn dir
        (Compiler.baseCommand g.compiler.executable path ++ options)) ∧ made σ) fun _ => failed :=
  .bind (Q := fun _ => fresh) (.modify hP) fun _ => .bind h.reset fun _ =>
    (ensures_prepare h.stable_made).weaken (fun _ => id) (fun _ _ => id) fun _ => h.failed_of_made

theorem compile (h : Phases g s path fresh made cleared failed) {l : Launch} {σ : Session}
    (hlaunch : made (launched g.compiler l σ)) :
    (g.compile s l).Ensures (· = σ) (fun _ => made) fun _ => made := by
  have hrun : (g.compiler.run l).Ensures (· = σ) (fun _ => made) fun _ => made :=
    .bind (ensures_launch hlaunch) fun o =>
      .of_reports (g.compiler.blind_conclude o).reports h.stable_made
  exact .bind (.observe (R := fun _ => made) hrun) fun r =>
    .of_reports (g.blind_heed s r).reports h.stable_made

theorem aggregator (h : Phases g s path fresh made cleared failed) :
    (g.aggregator s path).Keeps made := by
  rw [Generator.aggregator]
  exact .bind h.manifest fun m => .bind (.of_reports (.needWorkingDir _) h.stable_made) fun _ =>
    .bind (.of_reports (Settings.blind_policyOf _ _).reports h.stable_made) fun policy =>
      .pure fun _ => id

theorem aggregate (h : Phases g s path fresh made cleared failed) (a : Bundle.Aggregator) :
    (a.aggregate path (some (g.voice, path))).Ensures made (fun _ => cleared) fun _ => failed := by
  have hkeep {α : Type} {act : Action α} (hact : act.Reports) :
      act.Ensures made (fun _ => made) fun _ => failed :=
    (Action.Ensures.of_reports hact h.stable_made).weaken (fun _ => id) (fun _ _ => id)
      fun _ => h.failed_of_made
  rw [Bundle.Aggregator.aggregate]
  refine .bind (hkeep a.blind_mainModule.reports) fun main =>
    .bind (hkeep (a.reports_loadDeclarations path)) fun loaded => .bind h.clear fun _ => ?_
  exact (Action.Ensures.of_reports (a.blind_assemble loaded main).reports h.stable_cleared).weaken
    (fun _ => id) (fun _ _ => id) fun _ => h.failed_of_cleared

theorem harvest (h : Phases g s path fresh made cleared failed) {l : Launch} {σ : Session}
    (hlaunch : made (launched g.compiler l σ)) :
    (g.harvest s path l).Ensures (· = σ) (fun _ => cleared) fun _ => failed := by
  have hkeep {α : Type} {P : Session → Prop} {act : Action α}
      (hact : act.Ensures P (fun _ => made) fun _ => made) :
      act.Ensures P (fun _ => made) fun _ => failed :=
    hact.weaken (fun _ => id) (fun _ _ => id) fun _ => h.failed_of_made
  exact .bind (hkeep (h.compile hlaunch)) fun _ => .bind (hkeep h.aggregator) fun a => h.aggregate a

/-- The steps up to the text of the bundle lead through the phases of the run, given what the launch
does that the run comes to. -/
theorem bundled (h : Phases g s path fresh made cleared failed) {P : Session → Prop}
    (hP : ∀ σ, P σ → fresh { σ with scratch := some { path } })
    (hlaunch : ∀ σ options dir τ, P σ →
      (g.ready s path).outcome σ = (.ok (g.compiler.launchIn dir
        (Compiler.baseCommand g.compiler.executable path ++ options)), τ) →
      made τ → made (launched g.compiler (g.compiler.launchIn dir
        (Compiler.baseCommand g.compiler.executable path ++ options)) τ)) :
    (g.bundled s path).Ensures P (fun _ => cleared) fun _ => failed := by
  rw [bundled_eq]
  refine .bind_of_outcome (h.ready hP) fun σ l hσ τ hready hτ => ?_
  obtain ⟨⟨options, dir, rfl⟩, hτ⟩ := hτ
  exact h.harvest (hlaunch σ options dir τ hσ hready hτ)

end Phases

/-! ## Steps that change the tree -/

section

variable {g : Generator} {s : Settings} {I J F : Session → Prop}

/-- All steps of a run, given what those up to the text of the bundle and storing it do. -/
theorem ensures_steps {path : Path} {P : Session → Prop} {D : Text → Path → Session → Prop}
    {E : Fault → Session → Prop} (hbundled : (g.bundled s path).Ensures P (fun _ => I) fun _ => J)
    (hstore : ∀ source, (g.store s source).Ensures I (D source) E) (hfailed : ∀ f σ, J σ → E f σ) :
    (g.steps s path).Ensures P (fun stored => D stored.1 stored.2) E := by
  rw [Generator.steps]
  refine .bind (hbundled.weaken (fun _ => id) (fun _ _ => id) hfailed) fun source =>
    .bind (hstore source) fun target => ?_
  exact .pure fun _ => id

/-- The manifest is read by reports only, and remembered. -/
theorem keeps_manifest (hI : Session.Stable I)
    (hremember : ∀ σ m, I σ → I { σ with manifest := some m }) : (g.manifest s).Keeps I := by
  rw [manifest]
  refine .get_bind fun σ hσ => ?_
  refine Action.Ensures.weaken (P := I) (Q := fun _ => I) (E := fun _ => I)
    ?_ (fun τ (hτ : τ = σ) => hτ ▸ hσ) (fun _ _ => id) fun _ _ => id
  split
  · exact .pure fun _ => id
  · exact .bind (.ofExcept _) fun root => .bind (.of_reports (Manifest.reports_read _ _) hI) fun m =>
      .bind (Q := fun _ => I) (.modify fun τ => hremember τ m) fun _ => .pure fun _ => id

/-- What storing a bundle does, given what making its directory and writing its file do.  The file
is written even if the bundle has no UTF-8, but then nothing is written to it. -/
theorem ensures_store {K : Path → Session → Prop} {source : Text} (hI : Session.Stable I)
    (hK : ∀ target, Session.Stable (K target)) (hsteep : ∀ σ, I σ → I σ.stopped)
    (hdirs : ∀ target σ, s.outputPath g.voice.host = .ok target → I σ →
      I (σ.withTree g.voice.host (σ.tree.makeDirs (σ.spot g.voice.host) target.parent).2))
    (hwrite : ∀ target σ tree, s.outputPath g.voice.host = .ok target → I σ →
      σ.tree.writeFile (σ.spot g.voice.host) target
        ((g.voice.host.halves.encode? source).getD []) = .ok tree →
      K target (σ.withTree g.voice.host tree)) :
    (g.store s source).Ensures I
      (fun target σ => K target σ ∧ (g.voice.host.halves.encode? source).isSome = true)
      fun _ σ => I σ ∨ g.voice.host.halves.encode? source = none ∧
        ∃ target, s.outputPath g.voice.host = .ok target ∧ K target σ := by
  rw [store]
  cases htarget : s.outputPath g.voice.host with
  | error f => exact .throw fun _ => Or.inl
  | ok target =>
    simp only [Action.ofExcept, pure_bind]
    refine .bind (.say hI _ _ _) fun _ => .bind (Q := fun _ => I)
      (Scratch.ensures_makeDirs (fun σ hσ => Or.inl (hsteep σ hσ)) ?_) fun r => ?_
    · rintro σ r hσ rfl
      exact hdirs target σ htarget hσ
    cases r with
    | error e => exact .bind (.say hI _ _ _) fun _ => .throw fun _ => Or.inl
    | ok u =>
      refine .bind (.say hI _ _ _) fun _ => .get_bind fun σ hσ => ?_
      split
      · refine Action.Ensures.weaken (P := I) (Q := fun _ _ => False) (E := fun _ => I)
          ?_ (fun τ (hτ : τ = σ) => hτ ▸ hσ) (fun _ _ => False.elim) fun _ _ => Or.inl
        exact .bind (.say hI _ _ _) fun _ => .throw fun _ => id
      · next tree hwritten =>
        refine .bind (Q := fun _ => K target)
          (.set fun _ _ => hwrite target σ tree htarget hσ hwritten) fun _ => ?_
        cases hbytes : g.voice.host.halves.encode? source with
        | none => exact .throw fun τ hτ => Or.inr ⟨rfl, target, rfl, hτ⟩
        | some bytes =>
          exact .bind (.say (hK target) _ _ _) fun _ => .pure fun τ hτ => ⟨hτ, rfl⟩

/-- What locating the scratch directory does, given what making a temporary directory does. -/
theorem ensures_locate (hs : s.Located g.voice.host) {n : Nat} (hI : Session.Stable I)
    (hgiven : ∀ σ, s.tmp ≠ .value .null → I σ → J σ)
    (hmade : ∀ σ, I σ → (σ.tree.makeDirs (σ.spot g.voice.host) (g.voice.host.temporaryAt (n + 1))).1 =
      .ok () → J { σ.withTree g.voice.host (σ.tree.makeDirs (σ.spot g.voice.host)
        (g.voice.host.temporaryAt (n + 1))).2 with temporaries := n + 1 })
    (hrefused : ∀ σ, I σ → (σ.tree.makeDirs (σ.spot g.voice.host)
      (g.voice.host.temporaryAt (n + 1))).1 ≠ .ok () →
      F { σ.withTree g.voice.host (σ.tree.makeDirs (σ.spot g.voice.host)
        (g.voice.host.temporaryAt (n + 1))).2 with temporaries := n + 1 }) :
    (g.locate s).Ensures (fun σ => I σ ∧ σ.temporaries = n)
      (fun located σ => J σ ∧ located.1 = s.scratch g.voice.host (n + 1) ∧
        located.2 = s.temporary? g.voice.host (n + 1))
      fun _ σ => s.tmp = .value .null ∧ F σ := by
  have hstable : Session.Stable fun σ => I σ ∧ σ.temporaries = n := fun σ τ hσ hrep =>
    ⟨hI σ τ hσ.1 hrep, hrep.temporaries.trans hσ.2⟩
  rw [locate, Settings.scratch, Settings.temporary?]
  rcases hs.tmp with htmp | ⟨p, htmp, _⟩
  · simp only [htmp, Setting.toPath?, Action.ofExcept, pure_bind]
    refine .bind (.say hstable _ _ _) fun _ => .bind
      (Q := fun dir σ => J σ ∧ dir = g.voice.host.temporaryAt (n + 1)) ?_ fun dir =>
        .pure fun σ hσ => ⟨hσ.1, by rw [hσ.2], by rw [hσ.2]⟩
    rw [makeTemporary]
    refine .bind (Q := fun _ σ => ∃ τ, (I τ ∧ τ.temporaries = n) ∧ σ = { τ with temporaries := n + 1 })
      (.modify fun σ hσ => ⟨σ, hσ, by rw [hσ.2]⟩) fun _ => .get_bind ?_
    rintro σ ⟨τ, ⟨hτ, -⟩, rfl⟩
    refine .bind (Q := fun r σ => (r = .ok () → J σ) ∧ (r ≠ .ok () → F σ))
      (.onTree fun σ hσ => ?_) fun r => ?_
    · subst hσ
      exact ⟨hmade τ hτ, hrefused τ hτ⟩
    · cases r with
      | ok u => exact .pure fun σ hσ => ⟨hσ.1 rfl, rfl⟩
      | error e => exact .throw fun σ hσ => ⟨trivial, hσ.2 fun h => by cases h⟩
  · simp only [htmp, Setting.toPath?, Setting.toPath, Except.map, Action.ofExcept, pure_bind]
    have hset : s.tmp ≠ .value .null := fun hnull => by cases htmp.symm.trans hnull
    exact .pure fun σ hσ => ⟨hgiven σ hset hσ.1, rfl, rfl⟩

/-! ## The end of a run -/

/-- What cleaning up does, given what clearing the scratch directory in use does. -/
theorem ensures_cleanUp (hJ : Session.Stable J)
    (hidle : ∀ σ, I σ → (∀ d, σ.scratch = some d → d.emptied = true) → J σ)
    (hclear : ∀ d : Scratch, d.emptied = false →
      (Scratch.clear g.voice d.path).Ensures (fun σ => I σ ∧ σ.scratch = some d) (fun _ => J)
        fun _ => J) :
    g.cleanUp.Ensures I (fun _ => J) fun _ _ => False := by
  rw [cleanUp]
  refine .get_bind fun σ hσ => ?_
  cases hscratch : σ.scratch with
  | none =>
    refine .pure fun τ hτ => ?_
    rw [hτ]
    exact hidle σ hσ fun d hd => by rw [hscratch] at hd; cases hd
  | some d =>
    cases hemptied : d.emptied with
    | true =>
      simp only [hemptied, Bool.not_true, Bool.false_eq_true, if_false]
      refine .pure fun τ hτ => ?_
      rw [hτ]
      refine hidle σ hσ fun d' hd' => ?_
      rw [hscratch] at hd'
      cases hd'
      exact hemptied
    | false =>
      simp only [hemptied, Bool.not_false, if_true]
      have hcleared := hclear d hemptied
      refine .tryCatch (F := fun _ => J) (hcleared.weaken (fun τ hτ => ?_) (fun _ _ => id) fun _ _ => id)
        fun f => .say hJ _ _ _
      rw [hτ]
      exact ⟨hσ, hscratch⟩

/-- What removing the temporary directory does. -/
theorem ensures_removeTemporary {K : Session → Prop} {E : Fault → Session → Prop}
    {temporary : Option Path} (hJ : Session.Stable J) (hnone : temporary = none → ∀ σ, J σ → K σ)
    (hstuck : ∀ dir, temporary = some dir → ∀ σ room left, J σ →
      g.voice.host.room σ.moment = some room →
      σ.tree.stuck? room (σ.spot g.voice.host) dir = some left →
      E (.misuse .depth) (σ.withTree g.voice.host left).stopped)
    (hsome : ∀ dir, temporary = some dir → ∀ σ, J σ →
      K (σ.withTree g.voice.host (σ.tree.removeTree (σ.spot g.voice.host) dir).2)) :
    (g.removeTemporary temporary).Ensures J (fun _ => K) E := by
  cases temporary with
  | none => exact .pure (hnone rfl)
  | some dir =>
    refine .bind (.say hJ _ _ _) fun _ => .bind (Q := fun _ => K)
      (Scratch.ensures_removeTree (hstuck dir rfl) ?_) fun _ => .pure fun _ => id
    rintro σ r hσ rfl
    exact hsome dir rfl σ hσ

/-- A report fails only if the settings have no level. -/
theorem ensures_report (hI : Session.Stable I) (f : Fault) :
    (g.report s f).Ensures I (fun _ => I)
      fun _ σ => I σ ∧ ∀ level, Settings.levelOf s.logLevel ≠ .ok level := by
  have hsay (v : Voice) (level : Level) (message : String) :
      (v.say level message).Ensures I (fun _ => I)
        fun _ σ => I σ ∧ ∀ level, Settings.levelOf s.logLevel ≠ .ok level := .say hI _ _ _
  rw [report]
  refine .bind (hsay _ _ _) fun _ => .bind (hsay _ _ _) fun _ => ?_
  split
  · cases hlevel : Settings.levelOf s.logLevel with
    | error e =>
      refine .bind (Q := fun _ => I) (.throw fun σ hσ => ⟨hσ, fun level h => ?_⟩) fun level => ?_
      · cases h
      · rw [hlevel] at hsay
        split
        · exact .bind (hsay _ _ _) fun _ => hsay _ _ _
        · exact .bind (hsay _ _ _) fun _ => hsay _ _ _
    | ok level =>
      rw [hlevel] at hsay
      refine .bind (Q := fun _ => I) (.pure fun _ => id) fun level => ?_
      split
      · exact .bind (hsay _ _ _) fun _ => hsay _ _ _
      · exact .bind (hsay _ _ _) fun _ => hsay _ _ _
  · exact .pure fun _ => id

/-- How a run ends that a fault stopped.  If the report of the fault fails too, nothing is cleaned
up but the temporary directory. -/
theorem ensures_giveUp {K : Session → Prop} {R : Fault → Session → Prop} {temporary : Option Path}
    {f : Fault} (hI : Session.Stable I) (hK : Session.Stable K)
    (hreport : (∃ level, Settings.levelOf s.logLevel = .ok level) ∨ ∀ σ, I σ → J σ)
    (hclean : g.cleanUp.Ensures I (fun _ => J) fun _ _ => False)
    (hremove : (g.removeTemporary temporary).Ensures J (fun _ => K) R) :
    (g.giveUp s temporary f).Ensures I (fun r σ => (r = none ∧ g.throws = false) ∧ K σ)
      fun f' σ => R f' σ ∨
        ((∃ level, Settings.levelOf s.logLevel = .ok level) → f' = f ∧ g.throws = true) ∧ K σ := by
  have hobserved : Action.Ensures I (do
      g.report s f
      g.cleanUp) (fun _ => J)
      fun _ σ => J σ ∧ ∀ level, Settings.levelOf s.logLevel ≠ .ok level := by
    refine .bind ((ensures_report hI f).weaken (fun _ => id) (fun _ _ => id) ?_) fun _ =>
      hclean.weaken (fun _ => id) (fun _ _ => id) fun _ _ => False.elim
    rintro f' σ ⟨hσ, hlevel⟩
    refine ⟨?_, hlevel⟩
    rcases hreport with ⟨level, h⟩ | h
    · exact absurd h (hlevel level)
    · exact h σ hσ
  rw [giveUp]
  refine .bind (.observe (R := fun r σ => J σ ∧
    ((∃ level, Settings.levelOf s.logLevel = .ok level) → r = .ok ())) (hobserved.weaken (fun _ => id)
      (fun _ σ hσ => ⟨hσ, fun _ => rfl⟩)
      fun f' σ hσ => ⟨hσ.1, fun ⟨level, h⟩ => absurd h (hσ.2 level)⟩)) fun reported => ?_
  -- From here on the directory is removed, and the result of the report decides.
  by_cases hok : reported = .ok ()
  · subst hok
    refine .bind (Q := fun _ => K) (hremove.weaken (fun _ h => h.1) (fun _ _ => id)
      fun _ _ => Or.inl) fun _ => ?_
    simp only [Action.ofExcept, pure_bind]
    refine .bind (.say hK _ _ _) fun _ => ?_
    cases hthrows : g.throws with
    | true => exact .throw fun σ hσ => Or.inr ⟨fun _ => ⟨rfl, rfl⟩, hσ⟩
    | false => exact .pure fun σ hσ => ⟨⟨rfl, rfl⟩, hσ⟩
  · intro σ hσ
    have hlevel : ¬ ∃ level, Settings.levelOf s.logLevel = .ok level := fun h => hok (hσ.2 h)
    refine Action.Ensures.bind (P := J) (Q := fun _ => K) (hremove.weaken (fun _ => id) (fun _ _ => id)
      fun _ _ => Or.inl) (fun _ => ?_) σ hσ.1
    cases reported with
    | ok u => exact absurd rfl hok
    | error e =>
      exact .bind (Q := fun _ _ => False) (.throw fun τ hτ => Or.inr ⟨fun h => absurd h hlevel, hτ⟩)
        fun _ τ hτ => hτ.elim

/-- The launch that a run comes to writes into its scratch directory. -/
theorem approach_writes (hs : s.Located g.voice.host) {σ τ : Session} {l : Launch}
    (hrun : (g.approach s).outcome σ = (.ok l, τ)) :
    ∃ options dir, l = g.compiler.launchIn dir (Compiler.baseCommand g.compiler.executable
      (s.scratch g.voice.host (σ.temporaries + 1)) ++ options) := by
  have hlocate := ensures_locate (g := g) (n := σ.temporaries) (I := fun _ => True) (J := fun _ => True)
    (F := fun _ => True) hs (fun _ _ _ _ => trivial) (fun _ _ => id) (fun _ _ _ => trivial)
    fun _ _ _ => trivial
  have hbegin : (g.begin s).Ensures (fun τ => True ∧ τ.temporaries = σ.temporaries)
      (fun located τ => True ∧ located.1 = s.scratch g.voice.host (σ.temporaries + 1) ∧
        located.2 = s.temporary? g.voice.host (σ.temporaries + 1))
      fun _ τ => s.tmp = .value .null ∧ True :=
    .bind (.say (fun _ _ hτ hrep => ⟨trivial, hrep.temporaries.trans hτ.2⟩) _ _ _) fun _ => hlocate
  have hready (path : Path) : (g.ready s path).Ensures (fun _ => True)
      (fun l _ => ∃ options dir, l = g.compiler.launchIn dir
        (Compiler.baseCommand g.compiler.executable path ++ options)) fun _ _ => True := by
    refine .bind (Q := fun _ _ => True) .idle fun _ => .bind (Q := fun _ _ => True) .idle fun _ => ?_
    exact (ensures_prepare fun _ _ _ _ => trivial).weaken (fun _ => id) (fun _ _ h => h.1)
      fun _ _ => id
  have happroach : (g.approach s).Ensures (· = σ) (fun l _ => ∃ options dir, l = g.compiler.launchIn dir
      (Compiler.baseCommand g.compiler.executable (s.scratch g.voice.host (σ.temporaries + 1)) ++ options))
      fun _ _ => True := by
    refine .bind (hbegin.weaken (fun τ hτ => ⟨trivial, by rw [hτ]⟩) (fun _ _ => id)
      fun _ _ _ => trivial) fun located τ hτ => ?_
    rw [← hτ.2.1]
    exact hready located.1 τ trivial
  exact happroach.of_ok rfl hrun

/-- How a run goes on once a bundle is stored. -/
def conclude (g : Generator) (temporary : Option Path) (target : Path) : Action (Option Path) := do
  g.removeTemporary temporary
  g.voice.info "Generation is completed!"
  pure (some target)

/-- A run begins, takes its steps, and goes on as they ended. -/
theorem outcome_generate (σ : Session) : (g.generate s).outcome σ =
    match (g.begin s).outcome σ with
    | (.error f, τ) => (g.giveUp s none f).outcome τ
    | (.ok located, τ) =>
        match (g.steps s located.1).outcome τ with
        | (.error f, υ) => (g.giveUp s located.2 f).outcome υ
        | (.ok stored, υ) => (g.conclude located.2 stored.2).outcome υ := by
  obtain ⟨σ₁, hgreet, -⟩ := g.voice.outcome_say Level.info
    ("Generating declarations for \"" ++ Text.toString s.root.toText ++ "\"...") σ
  rw [begin, generate, Voice.info, Action.outcome_bind_ok hgreet, Action.outcome_bind_ok hgreet]
  rcases hlocated : (g.locate s).outcome σ₁ with ⟨r, σ₂⟩
  have hseen : (g.locate s).observe.outcome σ₁ = (.ok r, σ₂) := by
    rw [Action.outcome_observe, hlocated]
  rw [Action.outcome_bind_ok hseen]
  cases r with
  | error f => rfl
  | ok located =>
    rcases hstep : (g.steps s located.1).outcome σ₂ with ⟨r, σ₃⟩
    have hwork : (g.work s located.1).observe.outcome σ₂ = (.ok (r.map Prod.snd), σ₃) := by
      rw [Action.outcome_observe, work_eq, Action.outcome_bind, hstep]
      cases r <;> rfl
    simp only [hstep]
    rw [Action.outcome_bind_ok hwork]
    cases r with
    | error f => rfl
    | ok stored => rfl

theorem generate_eq : g.generate s = (do
    match ← (g.begin s).observe with
    | .error f => g.giveUp s none f
    | .ok located =>
        match ← (g.steps s located.1).observe with
        | .error f => g.giveUp s located.2 f
        | .ok stored => g.conclude located.2 stored.2) := by
  refine funext fun σ => (outcome_generate σ).trans (Eq.trans ?_ (Action.outcome_bind _ _ _).symm)
  rw [Action.outcome_observe]
  rcases (g.begin s).outcome σ with ⟨r, τ⟩
  cases r with
  | error f => rfl
  | ok located =>
    simp only
    rw [Action.outcome_bind, Action.outcome_observe]
    rcases (g.steps s located.1).outcome τ with ⟨r, υ⟩
    cases r with
    | error f => rfl
    | ok stored => rfl

/-- A run as a whole ends as its attempt does: what it starts with, the directories it locates, its
steps, and its end with or without a bundle. -/
theorem generate_follows_attempt {D M : Text × Path → Session → Prop} {L S : Fault → Session → Prop}
    {path : Path} {temporary : Option Path} {Q : Fault → Option Path → Session → Prop}
    {E : Fault → Fault → Session → Prop} {R : Text × Path → Fault → Session → Prop} {σ : Session}
    (hI : Session.Stable I) (hM : ∀ stored, Session.Stable (M stored))
    (hlocate : (g.locate s).Ensures I
      (fun located σ => J σ ∧ located.1 = path ∧ located.2 = temporary) L)
    (hsteps : (g.steps s path).Ensures
      (fun τ => J τ ∧ (g.begin s).outcome σ = (.ok (path, temporary), τ)) D S)
    (hlost : ∀ f, (g.giveUp s none f).Ensures (L f) (Q f) (E f))
    (hstopped : ∀ f, (g.giveUp s temporary f).Ensures (S f) (Q f) (E f))
    (hremove : ∀ stored, (g.removeTemporary temporary).Ensures (D stored) (fun _ => M stored)
      (R stored)) (hσ : I σ) :
    match (g.attempt s).outcome σ with
    | (.ok stored, _) => (g.generate s).Ensures (· = σ)
        (fun r σ' => r = some stored.2 ∧ M stored σ') (R stored)
    | (.error f, _) => (g.generate s).Ensures (· = σ) (Q f) (E f) := by
  obtain ⟨σ₁, hgreet, hrep⟩ := g.voice.outcome_say Level.info
    ("Generating declarations for \"" ++ Text.toString s.root.toText ++ "\"...") σ
  have hbegun : (g.begin s).Ensures (· = σ)
      (fun located τ => J τ ∧ located.1 = path ∧ located.2 = temporary) L := by
    refine Action.Ensures.of_outcome_eq hlocate (hI σ σ₁ hσ hrep) ?_
    rw [begin, Voice.info, Action.outcome_bind_ok hgreet]
  have hgenerate := outcome_generate (g := g) (s := s) σ
  rw [attempt, Action.outcome_bind]
  rcases hbegin : (g.begin s).outcome σ with ⟨r, σ₂⟩
  rw [hbegin] at hgenerate
  cases r with
  | error f => exact (hlost f).of_outcome_eq (hbegun.of_error rfl hbegin) hgenerate
  | ok located =>
    obtain ⟨path', temporary'⟩ := located
    obtain ⟨hσ₂, rfl, rfl⟩ := hbegun.of_ok rfl hbegin
    rcases hstep : (g.steps s path').outcome σ₂ with ⟨r, σ₃⟩
    simp only [hstep] at hgenerate ⊢
    cases r with
    | error f => exact (hstopped f).of_outcome_eq (hsteps.of_error ⟨hσ₂, hbegin⟩ hstep) hgenerate
    | ok stored =>
      refine Action.Ensures.of_outcome_eq ?_ (hsteps.of_ok ⟨hσ₂, hbegin⟩ hstep) hgenerate
      rw [conclude]
      exact .bind (hremove stored) fun _ => .bind (.say (hM stored) _ _ _) fun _ =>
        .pure fun σ hσ => ⟨rfl, hσ⟩

/-- What a run ensures, whatever became of its attempt. -/
theorem ensures_generate {D M : Text × Path → Session → Prop} {L S : Fault → Session → Prop}
    {path : Path} {temporary : Option Path} {Q : Option Path → Session → Prop}
    {E : Fault → Session → Prop} (hI : Session.Stable I) (hM : ∀ stored, Session.Stable (M stored))
    (hlocate : (g.locate s).Ensures I
      (fun located σ => J σ ∧ located.1 = path ∧ located.2 = temporary) L)
    {σ : Session} (hsteps : (g.steps s path).Ensures
      (fun τ => J τ ∧ (g.begin s).outcome σ = (.ok (path, temporary), τ)) D S)
    (hlost : ∀ f, (g.giveUp s none f).Ensures (L f) Q E)
    (hstopped : ∀ f, (g.giveUp s temporary f).Ensures (S f) Q E)
    (hremove : ∀ stored, (g.removeTemporary temporary).Ensures (D stored) (fun _ => M stored) E)
    (hend : ∀ stored τ, M stored τ → Q (some stored.2) τ) (hσ : I σ) :
    (g.generate s).Ensures (· = σ) Q E := by
  have hafter := generate_follows_attempt hI hM hlocate hsteps hlost hstopped hremove hσ
  split at hafter
  · next stored _ _ =>
    refine hafter.weaken (fun _ => id) (fun r σ' h => ?_) fun _ _ => id
    rw [h.1]
    exact hend stored σ' h.2
  · exact hafter

end
end Generator
end AmbientBundle
