import AmbientBundle.Proofs.Generate.Phases
import AmbientBundle.Proofs.Limits

/-!
# A run that meets no limit

The steps of a run track those of the same run on a host without limits (`tracks_generate`), one
lemma for each step.  So a run in which nothing lay too deep to be made or removed does what it does
there (`Tracks.outcome_eq`).

Most steps do not ask for the limits of their host at all and are the very same on both.
-/

namespace AmbientBundle

open AmbientBundle.Action (Tracks)

/-! ## Paths -/

theorem Host.Takes.boundless {host : Host} {p : Path} (h : host.Takes p) : host.boundless.Takes p :=
  ⟨h.settled, h.clean⟩

theorem Settings.Located.boundless {s : Settings} {host : Host} (h : s.Located host) :
    s.Located host.boundless where
  root := h.root.imp fun _ hp => ⟨hp.1, hp.2.boundless⟩
  tmp := h.tmp.imp_right fun ⟨p, hp, htakes⟩ => ⟨p, hp, htakes.boundless⟩

/-! ## The scratch directory -/

namespace Scratch

theorem tracks_clear (v : Voice) (path : Path) :
    Tracks (clear v path) (clear v.boundless path) := by
  rw [clear, clear]
  refine .bind (.say v _ _) fun _ => .bind (.of_reports (.checkPath v.host path)) fun _ =>
    .bind (.removeTree v.host path) fun r => ?_
  have hdone : Tracks (do
      mark true
      v.verbose "\"tmp\" directory was cleaned!") (do
      mark true
      v.boundless.verbose "\"tmp\" directory was cleaned!") :=
    .bind (.modify fun _ => rfl) fun _ => .say v _ _
  cases r with
  | ok u => exact hdone
  | error e =>
    simp only
    split
    · exact .bind (.say v _ _) fun _ => .bind (.say v _ _) fun _ => .bind (.throw _) fun _ => hdone
    · exact hdone

theorem tracks_attempt (v : Voice) (path : Path) :
    Tracks (attempt v path) (attempt v.boundless path) := by
  rw [attempt, attempt]
  refine .bind (.of_reports (.checkPath v.host path)) fun _ => .bind (.makeDirs v.host path) fun r => ?_
  cases r with
  | ok u => exact .bind (.modify fun _ => rfl) fun _ => .bind (.say v _ _) fun _ => .pure _
  | error e => exact .bind (.say v _ _) fun _ => .bind (.say v _ _) fun _ => .pure _

theorem tracks_makeWith (v : Voice) (patience : Patience) (path : Path) (left : Nat) :
    Tracks (makeWith v patience path left) (makeWith v.boundless patience path left) := by
  induction left with
  | zero =>
    rw [makeWith, makeWith]
    refine .bind (tracks_attempt v path) fun made => ?_
    split
    · exact .pure _
    · exact .bind (.say v _ _) fun _ => .throw _
  | succ left ih =>
    rw [makeWith, makeWith]
    refine .bind (tracks_attempt v path) fun made => ?_
    split
    · exact .pure _
    · cases patience.delay.milliseconds with
      | error how => exact .bind (.throw _) fun _ => .bind (.modify fun _ => rfl) fun _ => ih
      | ok ms => exact .bind (.say v _ _) fun _ => .bind (.modify fun _ => rfl) fun _ => ih

theorem tracks_reset (v : Voice) (patience : Patience) (path : Path) :
    Tracks (reset v patience path) (reset v.boundless patience path) :=
  .bind (.say v _ _) fun _ => .bind (tracks_clear v path) fun _ =>
    .bind (.say v _ _) fun _ => tracks_makeWith v patience path _

end Scratch

/-! ## The bundle -/

namespace Bundle.Aggregator

/-- The aggregator on the host without its limits. -/
def boundless (a : Aggregator) : Aggregator := { a with voice := a.voice.boundless }

theorem readTexts_boundless (a : Aggregator) (files : List FoundFile) :
    a.boundless.readTexts files = a.readTexts files := by
  induction files with
  | nil => rfl
  | cons f rest ih =>
    rw [readTexts, readTexts, ih]
    rfl

theorem loadDeclarations_boundless (a : Aggregator) (dir : Path) :
    a.boundless.loadDeclarations dir = a.loadDeclarations dir := by
  rw [loadDeclarations, loadDeclarations, funext a.readTexts_boundless]
  rfl

theorem reportRedirects_boundless (v : Voice) (redirects : List Import.Redirect) :
    reportRedirects v.boundless redirects = reportRedirects v redirects := by
  induction redirects with
  | nil => rfl
  | cons r rest ih =>
    rw [reportRedirects, reportRedirects, ih]
    rfl

theorem reportSkipped_boundless (v : Voice) (skipped : List ModuleId) :
    reportSkipped v.boundless skipped = reportSkipped v skipped := by
  induction skipped with
  | nil => rfl
  | cons r rest ih =>
    rw [reportSkipped, reportSkipped, ih]
    rfl

theorem reportVisits_boundless (v : Voice) (d : Declarations) (policy : ShakePolicy)
    (visited : List ModuleId) :
    reportVisits v.boundless d policy visited = reportVisits v d policy visited := by
  induction visited with
  | nil => rfl
  | cons m rest ih =>
    simp only [reportVisits, ih, reportSkipped_boundless]
    rfl

theorem assemble_boundless (a : Aggregator) (d : Declarations) (main : ModuleId) :
    a.boundless.assemble d main = a.assemble d main := by
  have hcombine (d : Declarations) : a.boundless.combine d = a.combine d := by
    simp only [combine, boundless, reportRedirects_boundless]
    rfl
  have hshake (d : Declarations) : a.boundless.shake d main = a.shake d main := by
    simp only [shake, reach, boundless, reportVisits_boundless]
    rfl
  simp only [assemble, hcombine, hshake]
  rfl

/-- What the aggregator makes of a directory, which it clears in between. -/
theorem tracks_aggregate (a : Aggregator) (dir : Path) (v : Voice) (path : Path) :
    Tracks (a.aggregate dir (some (v, path)))
      (a.boundless.aggregate dir (some (v.boundless, path))) := by
  rw [aggregate, aggregate, loadDeclarations_boundless, funext₂ a.assemble_boundless]
  exact .bind (.of_reports a.blind_mainModule.reports) fun main =>
    .bind (.of_reports (a.reports_loadDeclarations dir)) fun d => .bind (Scratch.tracks_clear v path) fun _ =>
      .of_reports (a.blind_assemble d main).reports

end Bundle.Aggregator

/-! ## Runs -/

/-- The compiler on the host without its limits. -/
def Compiler.boundless (c : Compiler) : Compiler := { c with voice := c.voice.boundless }

namespace Generator

/-- The generator on the host without its limits. -/
def boundless (g : Generator) : Generator :=
  { g with voice := g.voice.boundless, compiler := g.compiler.boundless }

variable (g : Generator) (s : Settings)

theorem tracks_removeTemporary (temporary : Option Path) :
    Tracks (g.removeTemporary temporary) (g.boundless.removeTemporary temporary) := by
  cases temporary with
  | none => exact .pure _
  | some dir =>
    exact .bind (.say g.voice _ _) fun _ => .bind (.removeTree g.voice.host dir) fun _ => .pure _

theorem tracks_locate : Tracks (g.locate s) (g.boundless.locate s) := by
  rw [locate, locate]
  refine .bind (.ofExcept _) fun tmp => ?_
  cases tmp with
  | some p => exact .pure _
  | none =>
    refine .bind (.say g.voice _ _) fun _ => .bind ?_ fun dir => .pure _
    rw [makeTemporary, makeTemporary]
    refine .bind (.modify fun _ => rfl) fun _ => .get_bind fun σ => ?_
    refine .bind (.onTree rfl _) fun r τ _ => ?_
    cases r with
    | ok u => exact Tracks.pure _ τ
    | error e => exact Tracks.throw _ τ

theorem tracks_manifest : Tracks (g.manifest s) (g.manifest s) :=
  .of_keeps fun _ => keeps_manifest (fun _ _ hσ hrep => hrep.stops.trans hσ) fun _ _ => id

theorem tracks_prepare (path : Path) : Tracks (g.prepare s path) (g.boundless.prepare s path) := by
  rw [prepare, prepare]
  refine .bind ?_ fun words => .bind (.ofExcept _) fun dir => .pure _
  exact .bind (.ofExcept _) fun words => .bind (.say g.compiler.voice _ _) fun _ =>
    .bind (.say g.compiler.voice _ _) fun _ => .pure _

theorem tracks_run (c : Compiler) (l : Launch) : Tracks (c.run l) (c.boundless.run l) :=
  .bind (.bind (.modify fun _ => rfl) fun _ => .bind (.onTree rfl _) fun r => .ofExcept r)
    fun o => .of_reports (c.blind_conclude o).reports

theorem tracks_ready (path : Path) : Tracks (g.ready s path) (g.boundless.ready s path) :=
  .bind (.modify fun _ => rfl) fun _ => .bind (Scratch.tracks_reset g.voice {} path) fun _ =>
    g.tracks_prepare s path

theorem tracks_harvest (path : Path) (l : Launch) :
    Tracks (g.harvest s path l) (g.boundless.harvest s path l) := by
  rw [harvest, harvest, compile, compile, aggregator, aggregator]
  simp only [bind_assoc, pure_bind]
  exact .bind (.observe (tracks_run g.compiler l)) fun r =>
    .bind (.of_reports (g.blind_heed s r).reports) fun _ =>
      .bind (g.tracks_manifest s) fun m => .bind (.of_reports (.needWorkingDir _)) fun _ =>
        .bind (.of_reports (Settings.blind_policyOf g.voice _).reports) fun policy =>
          Bundle.Aggregator.tracks_aggregate _ path g.voice path

theorem tracks_store (source : Text) : Tracks (g.store s source) (g.boundless.store s source) := by
  rw [store, store]
  refine .bind (.ofExcept _) fun target => .bind (.say g.voice _ _) fun _ =>
    .bind (.makeDirs g.voice.host target.parent) fun r => ?_
  cases r with
  | error e => exact .bind (.say g.voice _ _) fun _ => .throw _
  | ok u =>
    refine .bind (.say g.voice _ _) fun _ => .get_bind fun σ => ?_
    have hbytes : g.boundless.voice.host.halves = g.voice.host.halves := rfl
    have hspot : σ.spot g.boundless.voice.host = σ.spot g.voice.host := rfl
    simp only [hbytes, hspot]
    split
    · exact Tracks.bind (.say g.voice _ _) (fun _ => .throw _) σ
    · refine .bind ⟨Nat.le_refl _, fun _ => rfl⟩ fun _ τ _ => ?_
      cases g.voice.host.halves.encode? source with
      | none => exact Tracks.throw _ τ
      | some bytes => exact Tracks.bind (.say g.voice _ _) (fun _ => .pure _) τ

theorem tracks_bundled (path : Path) : Tracks (g.bundled s path) (g.boundless.bundled s path) := by
  rw [bundled_eq, bundled_eq]
  exact .bind (g.tracks_ready s path) fun l => g.tracks_harvest s path l

theorem tracks_cleanUp : Tracks g.cleanUp g.boundless.cleanUp := by
  rw [cleanUp, cleanUp]
  refine .get_bind fun σ => ?_
  cases σ.scratch with
  | none => exact Tracks.pure _ σ
  | some d =>
    simp only
    split
    · exact Tracks.tryCatch (Scratch.tracks_clear g.voice d.path) (fun f => .say g.voice _ _) σ
    · exact Tracks.pure _ σ

theorem tracks_giveUp (temporary : Option Path) (f : Fault) :
    Tracks (g.giveUp s temporary f) (g.boundless.giveUp s temporary f) := by
  have hreport : Tracks (g.report s f) (g.report s f) :=
    .of_keeps fun n => (ensures_report (I := fun σ => σ.stops = n)
      (fun _ _ hσ hrep => hrep.stops.trans hσ) f).weaken (fun _ => id) (fun _ _ => id) fun _ _ h => h.1
  rw [giveUp, giveUp]
  refine .bind (.observe (.bind hreport fun _ => g.tracks_cleanUp)) fun reported =>
    .bind (g.tracks_removeTemporary temporary) fun _ => .bind (.ofExcept _) fun _ =>
      .bind (.say g.voice _ _) fun _ => ?_
  change Tracks (if g.throws then throw f else pure none) (if g.throws then throw f else pure none)
  split
  · exact .throw _
  · exact .pure _

theorem tracks_conclude (temporary : Option Path) (target : Path) :
    Tracks (g.conclude temporary target) (g.boundless.conclude temporary target) :=
  .bind (g.tracks_removeTemporary temporary) fun _ => .bind (.say g.voice _ _) fun _ => .pure _

theorem tracks_begin : Tracks (g.begin s) (g.boundless.begin s) :=
  .bind (.say g.voice _ _) fun _ => g.tracks_locate s

theorem tracks_approach : Tracks (g.approach s) (g.boundless.approach s) :=
  .bind (g.tracks_begin s) fun located => g.tracks_ready s located.1

theorem tracks_steps (path : Path) : Tracks (g.steps s path) (g.boundless.steps s path) :=
  .bind (g.tracks_bundled s path) fun source => .bind (g.tracks_store s source) fun _ => .pure _

theorem tracks_attempt : Tracks (g.attempt s) (g.boundless.attempt s) :=
  .bind (g.tracks_begin s) fun located => g.tracks_steps s located.1

/-- A run tracks the run on the host without its limits. -/
theorem tracks_generate : Tracks (g.generate s) (g.boundless.generate s) := by
  rw [generate, generate]
  refine .bind (.say g.voice _ _) fun _ => .bind (.observe (g.tracks_locate s)) fun located => ?_
  cases located with
  | error f => exact g.tracks_giveUp s none f
  | ok located =>
    obtain ⟨path, temporary⟩ := located
    simp only [work_eq]
    refine .bind (.observe (.bind (g.tracks_steps s path) fun _ => .pure _)) fun worked => ?_
    cases worked with
    | error f => exact g.tracks_giveUp s temporary f
    | ok target => exact g.tracks_conclude temporary target

/-- What a run attempts is stopped no more often than the run. -/
theorem stops_attempt_le (σ : Session) :
    ((g.attempt s).outcome σ).2.stops ≤ ((g.generate s).outcome σ).2.stops := by
  rw [outcome_generate, attempt, Action.outcome_bind]
  rcases (g.begin s).outcome σ with ⟨r, τ⟩
  cases r with
  | error f => exact (g.tracks_giveUp s none f τ).1
  | ok located =>
    simp only
    rcases (g.steps s located.1).outcome τ with ⟨r, υ⟩
    cases r with
    | error f => exact (g.tracks_giveUp s located.2 f υ).1
    | ok stored => exact (g.tracks_conclude located.2 stored.2 υ).1

/-- What a run does up to its launch is stopped no more often than what it attempts. -/
theorem stops_approach_le (σ : Session) :
    ((g.approach s).outcome σ).2.stops ≤ ((g.attempt s).outcome σ).2.stops := by
  rw [approach, attempt, Action.outcome_bind, Action.outcome_bind]
  rcases (g.begin s).outcome σ with ⟨r, τ⟩
  cases r with
  | error f => exact Nat.le_refl _
  | ok located =>
    simp only [steps, bundled_eq, bind_assoc]
    rw [Action.outcome_bind]
    rcases (g.ready s located.1).outcome τ with ⟨r, υ⟩
    cases r with
    | error f => exact Nat.le_refl _
    | ok l =>
      exact (Tracks.bind (g.tracks_harvest s located.1 l) (fun source =>
        .bind (g.tracks_store s source) fun target => .pure (source, target)) υ).1

/-- Where a run is not stopped, what it attempts is what it attempts without limits. -/
theorem attempt_boundless {σ σ' : Session} {r : Except Fault (Option Path)}
    (hrun : (g.generate s).outcome σ = (r, σ')) (hstops : σ'.stops = σ.stops) :
    (g.boundless.attempt s).outcome σ = (g.attempt s).outcome σ := by
  have hle := g.stops_attempt_le s σ
  rw [hrun] at hle
  exact (g.tracks_attempt s σ).2 (Nat.le_antisymm (hstops ▸ hle) (g.tracks_attempt s σ).1)

/-- So is what it does up to its launch. -/
theorem approach_boundless {σ σ' : Session} {r : Except Fault (Option Path)}
    (hrun : (g.generate s).outcome σ = (r, σ')) (hstops : σ'.stops = σ.stops) :
    (g.boundless.approach s).outcome σ = (g.approach s).outcome σ := by
  have hle := Nat.le_trans (g.stops_approach_le s σ) (g.stops_attempt_le s σ)
  rw [hrun] at hle
  exact (g.tracks_approach s σ).2 (Nat.le_antisymm (hstops ▸ hle) (g.tracks_approach s σ).1)

end Generator
end AmbientBundle
