import AmbientBundle.Proofs.Bundle.Reading
import AmbientBundle.Proofs.Scratch.Calls

/-!
# When aggregating clears the scratch directory

Aggregating has three parts: everything is read (`gather`), the scratch directory is cleared, and
the bundle is put together.  The first and the last part only report, so clearing is the one
change of the tree.  What the result of a run says about the tree therefore depends on the part a
fault is from, and `aggregate_reads_first` goes by the faults that each part has.  The faults of
reading leave the tree alone, and so does a directory that cannot be cleared; once there is a
bundle, or its entry module is missed, the directory has gone.

A run that loses its working directory by clearing may fail after it with a refusal that names no
path (`OsFault.adrift`).  Reading never fails in this way.
-/

namespace AmbientBundle

/-! ## Faults by the part they are from -/

/-- Faults of reading, if no value is misused: no entry file, a directory that cannot be listed, a
file that cannot be decoded. -/
def Fault.OfReading : Fault → Prop
  | .settings _ => True
  | .os cause => cause ≠ OsFault.adrift
  | .undecodable => True
  | _ => False

/-- Faults of putting a bundle together, if no value is misused: an entry module that is not among
the declarations, and a working directory that has gone. -/
def Fault.OfAssembling : Fault → Prop
  | .unknownEntry _ => True
  | .os cause => cause = OsFault.adrift
  | _ => False

/-- No fault of reading is a fault of a later part. -/
theorem Fault.OfReading.not_late {f : Fault} (h : f.OfReading) :
    ¬ (f.OfAssembling ∨ f.IsMisuse) := by
  cases f <;> simp_all [OfReading, OfAssembling, IsMisuse]

theorem Folder.readDir_ne_adrift {f : Folder} {cwd : Spot} {p : Path} {e : OsFault}
    (h : f.readDir cwd p = .error e) : e ≠ OsFault.adrift := by
  rw [readDir] at h
  intro hadrift
  split at h <;> cases h <;> cases hadrift

theorem Listing.collect_ne_adrift {es : List (Path × Entry)} {e : OsFault}
    (h : collect es = .error e) : e ≠ OsFault.adrift := by
  fun_induction collect es with
  | case1 => cases h
  | case2 p c mode rest hlong =>
    cases h
    intro h
    cases h
  | case3 p c mode rest hshort ih =>
    cases hrest : collect rest with
    | error e' =>
      rw [hrest] at h
      cases h
      exact ih hrest
    | ok files =>
      rw [hrest] at h
      cases h
  | case4 p inner rest hlong =>
    cases h
    intro h
    cases h
  | case5 p inner rest hshort ih => exact ih h

theorem Listing.files_ne_adrift {f : Folder} {cwd : Spot} {p : Path} {e : OsFault}
    (h : files f cwd p = .error e) : e ≠ OsFault.adrift := by
  rw [files] at h
  split at h
  · next hdir =>
    cases h
    exact Folder.readDir_ne_adrift hdir
  · exact collect_ne_adrift h

namespace Action

/-! ## Actions with faults of a kind -/

section

variable {α β : Type} {F : Fault → Prop} {act : Action α} {next : α → Action β}

/-- An action that fails with faults of a kind only, wherever it is run. -/
def FailsOnly (F : Fault → Prop) (act : Action α) : Prop :=
  act.Ensures (fun _ => True) (fun _ _ => True) fun f _ => F f

namespace FailsOnly

theorem of_error (h : act.FailsOnly F) {s s' : Session} {f : Fault}
    (hrun : act.outcome s = (.error f, s')) : F f :=
  Ensures.of_error h trivial hrun

theorem pure (a : α) : (Pure.pure a : Action α).FailsOnly F := Ensures.pure fun _ _ => trivial

theorem throw {f : Fault} (h : F f) : (MonadExcept.throw f : Action α).FailsOnly F :=
  Ensures.throw fun _ _ => h

theorem get : (MonadState.get : Action Session).FailsOnly F := fun _ _ => trivial

theorem bind (hact : act.FailsOnly F) (hnext : ∀ a, (next a).FailsOnly F) :
    (act >>= next).FailsOnly F :=
  Ensures.bind hact hnext

theorem say (v : Voice) (level : Level) (message : String) : (v.say level message).FailsOnly F :=
  Ensures.say (fun _ _ _ _ => trivial) v level message

theorem of_gives {a : α} (h : act.Gives (.ok a)) : act.FailsOnly F := by
  intro s _
  obtain ⟨s', hrun, -⟩ := h s
  rw [hrun]
  trivial

end FailsOnly
end

end Action

namespace Bundle.Aggregator

section

variable (a : Aggregator)

/-! ## Reading -/

/-- What is read before anything is cleared: the main module and the declarations. -/
def gather (dir : Path) : Action (ModuleId × Declarations) := do
  let main ← a.mainModule
  let loaded ← a.loadDeclarations dir
  pure (main, loaded)

/-- Clearing stands between reading and putting the bundle together. -/
theorem aggregate_eq_gather (dir : Path) (v : Voice) (path : Path) :
    a.aggregate dir (some (v, path)) = (do
      let (main, loaded) ← a.gather dir
      Scratch.clear v path
      a.assemble loaded main) := by
  simp only [aggregate, gather, bind_assoc, pure_bind]

theorem reports_gather (dir : Path) : (a.gather dir).Reports :=
  .bind a.blind_mainModule.reports fun _ => .bind (a.reports_loadDeclarations dir) fun _ => .pure _

theorem failsOnly_mainModule : a.mainModule.FailsOnly fun f => f.OfReading ∨ f.IsMisuse := by
  rw [mainModule]
  split
  · refine .bind (.say _ _ _) fun _ => .bind (.throw (.inl trivial)) fun _ => ?_
    split
    · exact .pure _
    · exact .throw (.inr trivial)
  · split
    · exact .pure _
    · exact .throw (.inr trivial)

theorem failsOnly_listFiles (dir : Path) :
    (a.listFiles dir).FailsOnly fun f => f.OfReading ∨ f.IsMisuse := by
  rw [listFiles]
  refine .bind (.say _ _ _) fun _ => .bind ?_ fun _ => .bind .get fun s => ?_
  · rw [Action.checkPath]
    split
    · next hfault => exact .throw (.inr (Path.isMisuse_of_fault? hfault))
    · exact .pure _
  · split
    · next hfiles =>
      exact .bind (.say _ _ _) fun _ => .bind (.say _ _ _) fun _ =>
        .throw (.inl (Listing.files_ne_adrift hfiles))
    · exact .bind (.say _ _ _) fun _ => .pure _

theorem failsOnly_readTexts (files : List FoundFile) :
    (a.readTexts files).FailsOnly fun f => f.OfReading ∨ f.IsMisuse := by
  induction files with
  | nil => exact .pure _
  | cons f rest ih =>
    rw [readTexts]
    split
    · exact .bind (.say _ _ _) fun _ => .bind (.say _ _ _) fun _ => .throw (.inl trivial)
    · exact .bind ih fun _ => .pure _

/-- Reading has no faults but its own. -/
theorem failsOnly_gather (dir : Path) :
    (a.gather dir).FailsOnly fun f => f.OfReading ∨ f.IsMisuse :=
  .bind a.failsOnly_mainModule fun _ => .bind (.bind (a.failsOnly_listFiles dir) fun files =>
    .bind (a.failsOnly_readTexts files) fun _ => .bind (.say _ _ _) fun _ =>
      .bind .get fun _ => .bind (.say _ _ _) fun _ => .pure _) fun _ => .pure _

/-! ## Putting the bundle together -/

theorem failsOnly_combine (d : Declarations) :
    (a.combine d).FailsOnly fun f => f.OfAssembling ∨ f.IsMisuse := by
  have hredirects (rs : List Import.Redirect) :
      (reportRedirects a.voice rs).FailsOnly fun f => f.OfAssembling ∨ f.IsMisuse := by
    induction rs with
    | nil => exact .pure _
    | cons r rest ih => exact .bind (.say _ _ _) fun _ => ih
  rw [combine]
  refine .bind (.say _ _ _) fun _ => .bind ?_ fun _ => .bind (hredirects _) fun _ => .pure _
  rw [Action.needWorkingDir]
  refine .bind .get fun s => ?_
  split
  · exact .throw (.inl rfl)
  · exact .pure _

theorem failsOnly_shake (d : Declarations) (main : ModuleId) :
    (a.shake d main).FailsOnly fun f => f.OfAssembling ∨ f.IsMisuse := by
  by_cases hoff : a.options.shake = .off
  · rw [shake]
    simp only [hoff, if_true]
    exact .pure _
  · cases hreach : Shake.reachable d main a.options.shake with
    | none =>
      intro s _
      obtain ⟨s', hrun, -⟩ := gives_shake_of_none a hoff hreach s
      rw [hrun]
      exact .inl trivial
    | some ms => exact .of_gives (gives_shake_of_some a hoff hreach)

theorem failsOnly_addAlias (source : Text) (main : ModuleId) :
    (a.addAlias source main).FailsOnly fun f => f.OfAssembling ∨ f.IsMisuse := by
  rw [addAlias]
  split
  · refine .bind (.say _ _ _) fun _ => ?_
    split
    · exact .pure _
    · exact .throw (.inr trivial)
  · split
    · exact .bind (.say _ _ _) fun _ => .bind (.say _ _ _) fun _ => .pure _
    · exact .pure _

theorem failsOnly_addTemplate (source : Text) (main : ModuleId) :
    (a.addTemplate source main).FailsOnly fun f => f.OfAssembling ∨ f.IsMisuse := by
  rw [addTemplate]
  split
  · refine .bind (.say _ _ _) fun _ => ?_
    split
    · exact .pure _
    · exact .throw (.inr trivial)
  · exact .pure _

/-- Putting the bundle together has no faults but its own. -/
theorem failsOnly_assemble (loaded : Declarations) (main : ModuleId) :
    (a.assemble loaded main).FailsOnly fun f => f.OfAssembling ∨ f.IsMisuse := by
  rw [assemble]
  refine .bind (a.failsOnly_combine loaded) fun d => .bind (a.failsOnly_shake d main) fun kept =>
    .bind (.bind (.say _ _ _) fun _ => .pure _) fun source => ?_
  have hrest : Action.FailsOnly (fun f => f.OfAssembling ∨ f.IsMisuse) (do
      let source ← a.addAlias source main
      a.addTemplate source main) :=
    .bind (a.failsOnly_addAlias source main) fun source => a.failsOnly_addTemplate source main
  split
  · exact .bind (.say _ _ _) fun _ => hrest
  · exact hrest

/-! ## All together -/

end

section

variable {a : Aggregator} {dir path : Path} {v : Voice} {σ σ' : Session} {r : Except Fault Text}

/-- A run that cannot read everything leaves no trace. -/
theorem untouched_of_gather_error {f : Fault} (hgather : ((a.gather dir).outcome σ).1 = .error f)
    (hrun : (a.aggregate dir (some (v, path))).outcome σ = (r, σ')) :
    r = .error f ∧ σ.Untouched σ' := by
  have hrep := a.reports_gather dir σ
  rcases hread : (a.gather dir).outcome σ with ⟨r₁, σ₁⟩
  rw [hread] at hgather hrep
  obtain rfl : r₁ = .error f := hgather
  rw [aggregate_eq_gather, Action.outcome_bind_error hread] at hrun
  cases hrun
  exact ⟨rfl, .of_reported hrep⟩

/-- A run has its fault from reading, from clearing or from putting the bundle together.  The
directory has been cleared in the last case, and it may be torn if something in it lies too deep. -/
theorem aggregate_cases (hpath : path.Settled) (hne : path.parts ≠ [])
    (hrun : (a.aggregate dir (some (v, path))).outcome σ = (r, σ')) :
    (σ.Untouched σ' ∧ ∃ f, r = .error f ∧
      ((f.OfReading ∨ f.IsMisuse) ∨ f = .scratch (.notRemoved path))) ∨
    (σ.Cleared path σ' ∧ ∀ f, r = .error f → f.OfAssembling ∨ f.IsMisuse) ∨
    r = .error (.misuse .depth) := by
  have hrep := a.reports_gather dir σ
  rcases hread : (a.gather dir).outcome σ with ⟨r₁, σ₁⟩
  rw [hread] at hrep
  rw [aggregate_eq_gather] at hrun
  cases r₁ with
  | error f =>
    rw [Action.outcome_bind_error hread] at hrun
    cases hrun
    exact Or.inl ⟨.of_reported hrep, f, rfl, .inl ((a.failsOnly_gather dir).of_error hread)⟩
  | ok p =>
    rw [Action.outcome_bind_ok hread] at hrun
    have hsame := Session.Untouched.of_reported hrep
    rcases hclean : path.fault? v.host.halves with - | f
    · rcases Scratch.clear_cases ⟨hpath, hclean⟩ hne σ₁ with ⟨σ₂, hclear, -, hcleared⟩ |
        ⟨σ₂, hclear, -, hkept⟩ | ⟨σ₂, room, hclear, -⟩
      · rw [Action.outcome_bind_ok hclear] at hrun
        have hrep' := (a.blind_assemble p.2 p.1).reports σ₂
        rw [hrun] at hrep'
        refine Or.inr (Or.inl ⟨hsame.cleared (Session.stable_cleared σ₂ σ' hcleared hrep'), ?_⟩)
        rintro f rfl
        exact (a.failsOnly_assemble p.2 p.1).of_error hrun
      · rw [Action.outcome_bind_error hclear] at hrun
        cases hrun
        exact Or.inl ⟨hsame.trans hkept, _, rfl, .inr rfl⟩
      · rw [Action.outcome_bind_error hclear] at hrun
        cases hrun
        exact Or.inr (Or.inr rfl)
    · rw [Action.outcome_bind_error (Scratch.outcome_clear_of_fault hclean σ₁)] at hrun
      cases hrun
      exact Or.inl ⟨hsame.trans (.of_reported (Scratch.reported_clearing v σ₁)), f, rfl,
        .inl (.inr (Path.isMisuse_of_fault? hclean))⟩

/-- Aggregating reads everything before it deletes anything.  A run that cannot read everything
fails with what kept it from reading, and leaves the tree and the mark of the scratch directory as
they were; so does a run that cannot clear the directory.  A run that gives a bundle, or misses its
entry module, leaves nothing where the directory was, has marked it as cleared, and leaves
everything else as it was. -/
theorem aggregate_reads_first (a : Aggregator) (dir : Path) (v : Voice) (hpath : path.Settled)
    (hne : path.parts ≠ []) (hscratch : σ.scratch = some ⟨path, false⟩)
    (hrun : (a.aggregate dir (some (v, path))).outcome σ = (r, σ')) :
    (∀ f, ((a.gather dir).outcome σ).1 = .error f → r = .error f ∧ σ.Untouched σ') ∧
    (∀ f, r = .error f → f.OfReading → σ.Untouched σ') ∧
    (∀ cause, r = .error (.scratch cause) → σ.Untouched σ') ∧
    (((∃ text, r = .ok text) ∨ ∃ entry, r = .error (.unknownEntry entry)) →
      σ.Cleared path σ' ∧ σ'.scratch = some ⟨path, true⟩) := by
  refine ⟨fun f hgather => untouched_of_gather_error hgather hrun, ?_⟩
  rcases aggregate_cases hpath hne hrun with ⟨hsame, f, rfl, hfault⟩ | ⟨hcleared, hfaults⟩ | rfl
  · refine ⟨fun _ _ _ => hsame, fun _ _ => hsame, ?_⟩
    rintro (⟨text, h⟩ | ⟨entry, h⟩)
    · cases h
    · cases h
      rcases hfault with (h | h) | h <;> cases h
  · refine ⟨fun f hf hread => ?_, fun cause hf => ?_, fun _ => ⟨hcleared, ?_⟩⟩
    · exact absurd (hfaults f hf) hread.not_late
    · rcases hfaults _ hf with h | h <;> cases h
    · rw [hcleared.scratch, hscratch]
      rfl
  · refine ⟨fun f hf hread => ?_, fun cause hf => (nomatch hf), ?_⟩
    · cases hf
      cases hread
    · rintro (⟨text, h⟩ | ⟨entry, h⟩)
      · cases h
      · cases h

end

/-- The directory that `loader` loads. -/
def loaded : Path := ⟨.root, [['s']]⟩

/-- A session in which that directory is the scratch directory and holds some files. -/
def filled (tree : Folder) : Session := { holding tree with scratch := some ⟨loaded, false⟩ }

/-- Two modules are bundled and their files are cleared.  With a file that cannot be decoded they
stay. -/
theorem aggregate_reads_first_neighbours :
    (∃ text σ', (loader.aggregate loaded (some (atRoot.voice, loaded))).outcome
        (filled neighbours) = (.ok text, σ') ∧
      (filled neighbours).Cleared loaded σ' ∧ σ'.scratch = some ⟨loaded, true⟩) ∧
    ∃ σ', (loader.aggregate loaded (some (atRoot.voice, loaded))).outcome
        (filled (.file ['a'] [0xff] .data neighbours)) = (.error .undecodable, σ') ∧
      (filled (.file ['a'] [0xff] .data neighbours)).Untouched σ' := by
  have hread : ((loader.aggregate loaded (some (atRoot.voice, loaded))).outcome
      (filled neighbours)).1.isOk = true := by
    with_unfolding_all rfl
  have hunread : ((loader.aggregate loaded (some (atRoot.voice, loaded))).outcome
      (filled (.file ['a'] [0xff] .data neighbours))).1 = .error .undecodable := by
    with_unfolding_all rfl
  refine ⟨?_, _, Prod.ext hunread rfl, ?_⟩
  · rcases hrun : (loader.aggregate loaded (some (atRoot.voice, loaded))).outcome
      (filled neighbours) with ⟨r, σ'⟩
    rw [hrun] at hread
    cases r with
    | error f => cases hread
    | ok text =>
      obtain ⟨-, -, -, hcleared⟩ :=
        aggregate_reads_first loader loaded atRoot.voice (by decide) (by decide) rfl hrun
      exact ⟨text, σ', rfl, hcleared (.inl ⟨text, rfl⟩)⟩
  · obtain ⟨-, huntouched, -⟩ := aggregate_reads_first loader loaded atRoot.voice (by decide)
      (by decide) rfl (Prod.ext hunread rfl)
    exact huntouched _ rfl trivial

end Bundle.Aggregator
end AmbientBundle
