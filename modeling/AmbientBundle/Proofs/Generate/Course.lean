import AmbientBundle.Proofs.Generate.Abreast

/-!
# The course of two runs

Once both compilers have written the same, two runs cannot be told apart any more.  They have the
same manifest, whether it is read or remembered, aggregate the same text and store it in the same
place (`lockstep_steps`), or they stop with faults of one kind and clean up alike
(`lockstep_giveUp`).

At the end the trees are compared outside of a region only (`Session.Parted`), which holds the log
files and may hold directories that belong to one of the runs alone.
-/

namespace AmbientBundle

/-! ## Trees that are the same outside of a region -/

/-- Sessions whose trees are the same outside of a region, to which their reports go. -/
structure Session.Parted (region : List Text → Prop) (σ σ' : Session) : Prop where
  /-- The trees are the same elsewhere. -/
  looks : ∀ ns, ¬ region ns → σ.tree.look ns = σ'.tree.look ns
  /-- Reports go to the region on one side. -/
  logs : ∀ ns, σ.Writes ns → region ns
  /-- And on the other. -/
  logs' : ∀ ns, σ'.Writes ns → region ns

namespace Session.Parted

variable {region : List Text → Prop} {σ σ' : Session}

protected theorem symm (h : Parted region σ σ') : Parted region σ' σ :=
  ⟨fun ns hns => (h.looks ns hns).symm, h.logs', h.logs⟩

theorem stableOn : StableOn (Parted region) := by
  intro s s' t t' h hrep hrep'
  refine ⟨fun ns hns => ?_, fun ns hns => ?_, fun ns hns => ?_⟩
  · rw [hrep.look _ fun hw => hns (h.logs ns hw), hrep'.look _ fun hw => hns (h.logs' ns hw)]
    exact h.looks ns hns
  · exact h.logs ns ((hrep.writes_iff ns).1 hns)
  · exact h.logs' ns ((hrep'.writes_iff ns).1 hns)

/-- A change of one tree inside of the region does not matter. -/
theorem aside (h : Parted region σ σ') (host : Host) {tree : Folder}
    (htree : ∀ ns, ¬ region ns → tree.look ns = σ.tree.look ns) :
    Parted region (σ.withTree host tree) σ' where
  looks := fun ns hns => (htree ns hns).trans (h.looks ns hns)
  logs := fun ns hns => h.logs ns (writes_withTree hns).1
  logs' := h.logs'

theorem of_twins {host : Host} {P : List Text → List Text → Prop} {K K' : List Text → Prop}
    (h : Twins host P K K' σ σ') (hplaces : ∀ ns, ¬ region ns → P ns ns)
    (hlogs : ∀ ns, K ns ∨ K' ns → region ns) : Parted region σ σ' where
  looks := fun ns hns => h.trees.looks (hplaces ns hns) fun hK => hns (hlogs ns hK)
  logs := fun ns hns => hlogs ns (Or.inl (h.veiled ns hns))
  logs' := fun ns hns => hlogs ns (Or.inr (h.veiled' ns hns))

end Session.Parted

namespace Generator

open Session (Twins Near SameMark Recalls Seasoned Parted)
open Scratch (Paired stableOn_paired)

/-- The aggregator of a run, given its manifest and its policy. -/
def aggregatorFor (g : Generator) (s : Settings) (path : Path) (m : Manifest)
    (policy : ShakePolicy) : Bundle.Aggregator where
  voice := g.voice
  namer := Namer.make g.voice.host.cwd m.name (Path.parse s.root.toText) path none
  options :=
    { entry := s.entry
      shake := policy
      withAlias := !s.noAlias.holds
      customAlias := s.customAlias
      template := s.template }

theorem aggregator_eq (g : Generator) (s : Settings) (path : Path) :
    g.aggregator s path = (do
      let m ← g.manifest s
      Action.needWorkingDir (!(Path.parse s.root.toText).isAbsolute || !path.isAbsolute)
      let policy ← Settings.policyOf g.voice s.shake
      pure (g.aggregatorFor s path m policy)) := rfl

/-- Two runs that are about to work in their scratch directories: they are near each other and
recall the same file in the package. -/
def Poised (s : Settings) (host : Host) (P : List Text → List Text → Prop) (K K' : List Text → Prop)
    (D D' : Path) (file : Option (Bytes × FileMode)) (σ σ' : Session) : Prop :=
  Near host P K K' D D' σ σ' ∧ Recalls s host file σ ∧ Recalls s host file σ'

namespace Parallel

variable {g : Generator} {s : Settings} {c c' : Compiler} {P : List Text → List Text → Prop}
  {K K' : List Text → Prop} {D D' : Path} {file : Option (Bytes × FileMode)}

/-! ## The manifest -/

/-- The manifest is the same on both sides, whether it is read or remembered. -/
theorem lockstep_manifest (h : Parallel g s c c' P K K' D D') :
    Action.Lockstep
      (fun σ σ' => Stocked g.voice.host P K K' D D' σ σ' ∧ Recalls s g.voice.host file σ ∧
        Recalls s g.voice.host file σ')
      (g.manifest s) (g.manifest s)
      (fun m m' σ σ' => m = m' ∧ Stocked g.voice.host P K K' D D' σ σ')
      (Stocked g.voice.host P K K' D D') := by
  have hstable := h.stableOn_stocked
  by_cases hstated : ∃ m, Manifest.Says g.voice.host.halves s.packageFile file m
  · obtain ⟨m, hm⟩ := hstated
    -- Either side gives the one manifest that the file states.
    have hside {I : Session → Prop} (hI : Session.Stable I)
        (hremember : ∀ σ m, I σ → I { σ with manifest := some m }) :
        (g.manifest s).Ensures (fun σ => I σ ∧ Recalls s g.voice.host file σ)
          (fun m' σ => m' = m ∧ I σ) fun _ _ => False :=
      ((keeps_manifest hI hremember).and (ensures_manifest h.located)).weaken (fun _ => id)
        (fun m' σ hσ => ⟨hσ.2.2.unique hm, hσ.1⟩) fun _ σ hσ => hσ.2.2 m hm
    refine .apart (M := fun m' σ σ' => m' = m ∧ Stocked g.voice.host P K K' D D' σ σ' ∧
      Recalls s g.voice.host file σ') (fun σ' => ?_) fun m' σ => ?_
    · refine (hside (I := fun σ => Stocked g.voice.host P K K' D D' σ σ' ∧
        Recalls s g.voice.host file σ') (fun σ τ hσ hrep => ?_) fun σ m hσ => ?_).weaken ?_
        (fun _ _ => id) fun _ _ => id
      · exact ⟨hstable σ σ' τ σ' hσ.1 hrep (.refl σ'), hσ.2⟩
      · exact ⟨hσ.1.remembers (some m) σ'.manifest, hσ.2⟩
      · exact fun σ hσ => ⟨⟨hσ.1, hσ.2.2⟩, hσ.2.1⟩
    · refine (hside (I := fun σ' => m' = m ∧ Stocked g.voice.host P K K' D D' σ σ')
        (fun σ' τ' hσ hrep => ?_) fun σ' m hσ => ?_).weaken ?_ ?_ fun _ _ => id
      · exact ⟨hσ.1, hstable σ σ' σ τ' hσ.2 (.refl σ) hrep⟩
      · exact ⟨hσ.1, hσ.2.remembers σ.manifest (some m)⟩
      · exact fun σ' hσ => ⟨⟨hσ.1, hσ.2.1⟩, hσ.2.2⟩
      · exact fun m'' σ' hσ => ⟨hσ.2.1.trans hσ.1.symm, hσ.2.2⟩
  · -- Nothing can be remembered, so that both sides read the file.
    have hnone {σ : Session} (hσ : Recalls s g.voice.host file σ) : σ.manifest = none := by
      cases hmanifest : σ.manifest with
      | none => rfl
      | some m => exact absurd ⟨m, hσ.seasoned.manifest m hmanifest⟩ hstated
    have hpackage := h.located.packageFile
    obtain ⟨root, hroot, -⟩ := h.located.root
    have hpath : s.packageFile = root.child Manifest.fileName := by rw [Settings.packageFile, hroot]
    rw [manifest]
    refine .get_bind fun σ σ' hσ => ?_
    simp only [hnone hσ.2.1, hnone hσ.2.2, hroot, Setting.toPath, Action.ofExcept, pure_bind]
    refine .bind (Q := fun m m' σ σ' => m = m' ∧ Stocked g.voice.host P K K' D D' σ σ')
      ((Manifest.lockstep_read (R := Stocked g.voice.host P K K' D D') (hpath ▸ hpackage.clean)
        hstable fun σ σ' hσ => ?_).weaken (fun τ τ' hτ => ?_) (fun _ _ _ _ => id) fun _ _ => id)
      fun m m' => .assume fun hm => ?_
    · exact Folder.readFile_agree h.mirror hσ.1.1.trees
        (hpath ▸ ⟨hpackage.settled, hpackage.settled, h.package⟩)
        (hpath ▸ h.clear)
    · rw [hτ.1, hτ.2]
      exact hσ.1
    · exact .bind (Q := fun _ _ => Stocked g.voice.host P K K' D D')
        (.modify fun σ σ' hσ => hσ.remembers (some m) (some m'))
        fun _ _ => .pure fun _ _ hσ => ⟨hm, hσ⟩

/-! ## The bundle -/

theorem lockstep_aggregator (h : Parallel g s c c' P K K' D D') :
    Action.Lockstep
      (fun σ σ' => Stocked g.voice.host P K K' D D' σ σ' ∧ Recalls s g.voice.host file σ ∧
        Recalls s g.voice.host file σ')
      (g.aggregator s D) (g.aggregator s D')
      (fun a a' σ σ' => (∃ m policy, a = g.aggregatorFor s D m policy ∧
        a' = g.aggregatorFor s D' m policy) ∧ Stocked g.voice.host P K K' D D' σ σ')
      (Stocked g.voice.host P K K' D D') := by
  have hlost (σ σ' : Session) (hσ : Stocked g.voice.host P K K' D D' σ σ') := hσ.1.1.lost h.cwd
  rw [aggregator_eq, aggregator_eq, h.scratch.left.isAbsolute, h.scratch.right.isAbsolute]
  refine .bind h.lockstep_manifest fun m m' => .assume fun hm => ?_
  subst hm
  refine .bind (.of_blind (.needWorkingDir _) h.stableOn_stocked hlost) fun _ _ => .assume fun _ =>
    .bind (.of_blind (Settings.blind_policyOf _ _) h.stableOn_stocked hlost) fun policy policy' =>
      .assume fun hpolicy => .pure fun σ σ' hσ => ⟨⟨m, policy, rfl, ?_⟩, hσ⟩
  rw [hpolicy]

/-- The same text is aggregated of what two compilers wrote. -/
theorem lockstep_aggregate (h : Parallel g s c c' P K K' D D') (m : Manifest) (policy : ShakePolicy) :
    Action.Lockstep (Stocked g.voice.host P K K' D D')
      ((g.aggregatorFor s D m policy).aggregate D (some (g.voice, D)))
      ((g.aggregatorFor s D' m policy).aggregate D' (some (g.voice, D')))
      (fun text text' σ σ' => text = text' ∧ Paired g.voice.host P K K' D D' σ σ')
      (Paired g.voice.host P K K' D D') := by
  have hpaired : Session.StableOn (Paired g.voice.host P K K' D D') := stableOn_paired
  have hlost (σ σ' : Session) (hσ : Paired g.voice.host P K K' D D' σ σ') := hσ.1.lost h.cwd
  -- Neither the main module nor the assembly depends on the scratch directory.
  have hmain : Action.Lockstep (Stocked g.voice.host P K K' D D')
      (g.aggregatorFor s D m policy).mainModule (g.aggregatorFor s D' m policy).mainModule
      (fun main main' σ σ' => main = main' ∧ Stocked g.voice.host P K K' D D' σ σ')
      (Stocked g.voice.host P K K' D D') :=
    .of_blind (Bundle.Aggregator.blind_mainModule _) h.stableOn_stocked fun σ σ' hσ => hlost σ σ' hσ.1
  have hload : Action.Lockstep (Stocked g.voice.host P K K' D D')
      ((g.aggregatorFor s D m policy).loadDeclarations D)
      ((g.aggregatorFor s D' m policy).loadDeclarations D')
      (fun d d' σ σ' => d = d' ∧ Stocked g.voice.host P K K' D D' σ σ')
      (Stocked g.voice.host P K K' D D') := by
    refine Bundle.Aggregator.lockstep_loadDeclarations h.takes h.takes' rfl rfl rfl
      h.stableOn_stocked fun σ σ' hσ => ?_
    exact Listing.files_alike h.mirror hσ.1.1.trees h.scratch hσ.2
  have hassemble (d : Declarations) (main : ModuleId) :
      Action.Lockstep (Paired g.voice.host P K K' D D')
        ((g.aggregatorFor s D m policy).assemble d main) ((g.aggregatorFor s D' m policy).assemble d main)
        (fun text text' σ σ' => text = text' ∧ Paired g.voice.host P K K' D D' σ σ')
        (Paired g.voice.host P K K' D D') :=
    .of_blind (Bundle.Aggregator.blind_assemble _ _ _) hpaired hlost
  rw [Bundle.Aggregator.aggregate, Bundle.Aggregator.aggregate]
  refine .bind (hmain.weaken (fun _ _ => id) (fun _ _ _ _ => id) fun _ _ hσ => hσ.1)
    fun main main' => .assume fun hsame => ?_
  subst hsame
  refine .bind (hload.weaken (fun _ _ => id) (fun _ _ _ _ => id) fun _ _ hσ => hσ.1)
    fun d d' => .assume fun hsame => ?_
  subst hsame
  exact .bind ((Scratch.lockstep_clear_paired h.free h.mirror h.scratch h.takes.clean h.takes'.clean
    h.ne).weaken (fun _ _ hσ => hσ.1)
    (fun _ _ _ _ => id) fun _ _ => id) fun _ _ => hassemble d main

/-- The same text is stored in the same place. -/
theorem lockstep_store (h : Parallel g s c c' P K K' D D') (text : Text) :
    Action.Lockstep (Paired g.voice.host P K K' D D') (g.store s text) (g.store s text)
      (fun p q σ σ' => p = q ∧ Paired g.voice.host P K K' D D' σ σ')
      (Paired g.voice.host P K K' D D') := by
  have hpaired : Session.StableOn (Paired g.voice.host P K K' D D') := stableOn_paired
  rw [store]
  cases htarget : s.outputPath g.voice.host with
  | error f =>
    exact .bind (Q := fun _ _ _ _ => False) (.throw rfl fun _ _ => id)
      fun _ _ _ _ hfalse => hfalse.elim
  | ok target =>
    have hsettled := (h.located.outputPath htarget).settled
    have hfacing : target.Facing P target := ⟨hsettled, hsettled, h.output target htarget⟩
    simp only [Action.ofExcept, pure_bind, h.free.makeDirs]
    refine .bind (.say hpaired _ _ _ _ _ _) fun _ _ => .bind
      (Q := fun r r' σ σ' => Agree OsFault.Same (fun _ _ => True) r r' ∧
        Paired g.voice.host P K K' D D' σ σ') (.onTree fun σ σ' hσ => ?_) fun r r' => .assume fun hr => ?_
    · have hfollow : Folder.Follow P (fun ns ms => K ns ∨ K' ms)
          (σ.tree.makeDirs (σ.spot g.voice.host) target.parent)
          (σ'.tree.makeDirs (σ'.spot g.voice.host) target.parent) :=
        Folder.makeDirs_agree h.mirror hσ.1.trees (hfacing.parent h.mirror)
      exact ⟨hfollow.1, hσ.1.withTree hfollow.2, hσ.2⟩
    · rcases hr.cases with ⟨_, _, rfl, rfl, -⟩ | ⟨e, e', rfl, rfl, hsame⟩
      · refine .bind (.say hpaired _ _ _ _ _ _) fun _ _ => .get_bind fun σ σ' hσ => ?_
        have hwritten : Agree OsFault.Same (Folder.Mirrors P fun ns ms => K ns ∨ K' ms)
            (σ.tree.writeFile (σ.spot g.voice.host) target
              ((g.voice.host.halves.encode? text).getD []))
            (σ'.tree.writeFile (σ'.spot g.voice.host) target
              ((g.voice.host.halves.encode? text).getD [])) :=
          Folder.writeFile_agree h.mirror hσ.1.trees hfacing _
        rcases hwritten.cases with ⟨tree, tree', hw, hw', htrees⟩ | ⟨e, e', hw, hw', hsame⟩
        · simp only [hw, hw']
          refine .bind (Q := fun _ _ => Paired g.voice.host P K K' D D')
            (.set fun _ _ _ => ⟨hσ.1.withTree htrees, hσ.2⟩) fun _ _ => ?_
          cases g.voice.host.halves.encode? text with
          | none =>
            exact .bind (Q := fun _ _ _ _ => False) (.throw rfl fun _ _ => id) fun _ _ _ _ hfalse =>
              hfalse.elim
          | some bytes => exact .bind (.say hpaired _ _ _ _ _ _) fun _ _ => .pure fun _ _ hτ => ⟨rfl, hτ⟩
        · simp only [hw, hw']
          refine Action.Lockstep.weaken (R := Paired g.voice.host P K K' D D')
            (Q := fun p q σ σ' => p = q ∧ Paired g.voice.host P K K' D D' σ σ')
            (E := Paired g.voice.host P K K' D D') ?_ (fun τ τ' hτ => ?_) (fun _ _ _ _ => id) fun _ _ => id
          · exact .bind (.say hpaired _ _ _ _ _ _) fun _ _ =>
              .throw (congrArg Errno.kind hsame) fun _ _ => id
          · rw [hτ.1, hτ.2]
            exact hσ
      · exact .bind (.say hpaired _ _ _ _ _ _) fun _ _ => .throw (congrArg Errno.kind hsame) fun _ _ => id

/-- One run recalls the file in the package while it works. -/
theorem phases (h : Parallel g s c c' P K K' D D') (hclears : Clears s file D) :
    Phases { g with compiler := c } s D (Recalls s g.voice.host file) (Recalls s g.voice.host file)
      (Seasoned s g.voice.host file) (Seasoned s g.voice.host file) :=
  phases_recalls h.located h.takes hclears h.still

/-- So does the other. -/
theorem phases' (h : Parallel g s c c' P K K' D D') (hclears : Clears s file D') :
    Phases { g with compiler := c' } s D' (Recalls s g.voice.host file) (Recalls s g.voice.host file)
      (Seasoned s g.voice.host file) (Seasoned s g.voice.host file) :=
  phases_recalls h.located h.takes' hclears h.still

/-- The same text is aggregated after launches that fill the scratch directories alike. -/
theorem lockstep_harvest (h : Parallel g s c c' P K K' D D') (hclears : Clears s file D)
    (hclears' : Clears s file D') (l l' : Launch) :
    Action.Lockstep
      (fun σ σ' => Loaded g s c c' P K K' D D' l l' σ σ' ∧ Recalls s g.voice.host file σ ∧
        Recalls s g.voice.host file σ')
      (Generator.harvest { g with compiler := c } s D l)
      (Generator.harvest { g with compiler := c' } s D' l')
      (fun text text' σ σ' => text = text' ∧ Paired g.voice.host P K K' D D' σ σ')
      (Paired g.voice.host P K K' D D') := by
  rw [harvest, harvest]
  refine .bind (h.lockstep_compile hclears hclears' l l') fun _ _ => .bind
    (h.lockstep_aggregator.weaken (fun _ _ => id) (fun _ _ _ _ => id) fun _ _ hσ => hσ.1)
    fun a a' => .assume fun ha => ?_
  obtain ⟨m, policy, rfl, rfl⟩ := ha
  exact h.lockstep_aggregate m policy

/-- Two runs that start near each other and recall the same file come to launches that fill their
scratch directories alike, if all launches do that they come to. -/
theorem lockstep_loaded (h : Parallel g s c c' P K K' D D') (hclears : Clears s file D)
    (hclears' : Clears s file D') (hscratch : ∃ k, D = s.scratch g.voice.host k)
    (hscratch' : ∃ k, D' = s.scratch g.voice.host k) :
    Action.Lockstep
      (fun σ σ' => Poised s g.voice.host P K K' D D' file σ σ' ∧ Fills g s c c' P K K' D D' σ σ')
      (Generator.ready { g with compiler := c } s D) (Generator.ready { g with compiler := c' } s D')
      (fun l l' σ σ' => Loaded g s c c' P K K' D D' l l' σ σ' ∧ Recalls s g.voice.host file σ ∧
        Recalls s g.voice.host file σ')
      (Paired g.voice.host P K K' D D') := by
  have hmarked {E : Path} (hE : ∃ k, E = s.scratch g.voice.host k) {σ : Session}
      (hσ : Recalls s g.voice.host file σ) :
      Recalls s g.voice.host file { σ with scratch := some { path := E } } := by
    refine ⟨hσ.there, hσ.unlogged, hσ.seasoned.manifest, fun d hd => ?_⟩
    cases hd
    exact hE
  have hready := h.lockstep_ready.and_ensures
    ((h.phases hclears).ready fun _ hσ => hmarked hscratch hσ)
    ((h.phases' hclears').ready fun _ hσ => hmarked hscratch' hσ)
  have hpoised := hready.weaken (F := Paired g.voice.host P K K' D D')
    (T := fun σ σ' => Poised s g.voice.host P K K' D D' file σ σ' ∧ Fills g s c c' P K K' D D' σ σ')
    (fun _ _ hσ => hσ.1) (fun _ _ _ _ => id) fun _ _ hσ => hσ.1
  refine hpoised.remember.weaken (fun _ _ => id) ?_ fun _ _ => id
  rintro l l' σ σ' ⟨⟨⟨hpaired, hbare, hbare'⟩, ⟨-, hrecalls⟩, -, hrecalls'⟩, τ, τ', ⟨-, hfills⟩,
    hrun, hrun'⟩
  exact ⟨⟨hpaired, hfills l l' σ σ' hrun hrun' hpaired.1 hbare hbare'⟩, hrecalls, hrecalls'⟩

/-- The steps of two such runs. -/
theorem lockstep_steps (h : Parallel g s c c' P K K' D D') (hclears : Clears s file D)
    (hclears' : Clears s file D') (hscratch : ∃ k, D = s.scratch g.voice.host k)
    (hscratch' : ∃ k, D' = s.scratch g.voice.host k) :
    Action.Lockstep
      (fun σ σ' => Poised s g.voice.host P K K' D D' file σ σ' ∧ Fills g s c c' P K K' D D' σ σ')
      (Generator.steps { g with compiler := c } s D) (Generator.steps { g with compiler := c' } s D')
      (fun stored stored' σ σ' => stored = stored' ∧ Paired g.voice.host P K K' D D' σ σ')
      (Paired g.voice.host P K K' D D') := by
  rw [steps, steps, bundled_eq, bundled_eq, bind_assoc, bind_assoc]
  refine .bind (h.lockstep_loaded hclears hclears' hscratch hscratch') fun l l' =>
    .bind (h.lockstep_harvest hclears hclears' l l') fun text text' => .assume fun htext => ?_
  subst htext
  exact .bind (h.lockstep_store text) fun p q => .assume fun hpq => .pure fun _ _ hτ => ⟨by rw [hpq], hτ⟩

end Parallel

/-! ## The end of two runs -/

/-- A run that cleans up after itself alone does not matter outside of a region that holds the
scratch directories it may have used. -/
theorem parted_cleanUp {g : Generator} {s : Settings} {file : Option (Bytes × FileMode)}
    {region : List Text → Prop} {σ' : Session} (hs : s.Located g.voice.host)
    (htemp : g.voice.host.Takes g.voice.host.temporary) (hfree : g.voice.host.Boundless)
    (hregion : ∀ k ns, (s.scratch g.voice.host k).parts <+: ns → region ns) :
    g.cleanUp.Ensures (fun σ => Parted region σ σ' ∧ Seasoned s g.voice.host file σ)
      (fun _ σ => Parted region σ σ') fun _ _ => False := by
  have hstable : Session.Stable fun σ => Parted region σ σ' := fun σ τ hσ hrep =>
    Parted.stableOn σ σ' τ σ' hσ hrep (.refl σ')
  refine ensures_cleanUp hstable (fun _ hσ _ => hσ.1) fun d _ σ hσ => ?_
  obtain ⟨k, hk⟩ := hσ.1.2.scratch d hσ.2
  have htakes : g.voice.host.Takes d.path := hk ▸ hs.scratch htemp k
  have hremove {τ : Session} (hτ : Parted region τ σ') : Parted region
      (τ.withTree g.voice.host (τ.tree.removeTree (τ.spot g.voice.host) d.path).2) σ' :=
    hτ.aside _ fun ns hns =>
      Folder.look_removeTree_outside htakes.settled fun h => hns (hregion k ns (hk ▸ h))
  have hclear : (Scratch.clear g.voice d.path).Keeps fun τ => Parted region τ σ' := by
    refine Scratch.ensures_clear htakes.clean hstable hstable (fun _ => hstable)
      (fun τ room _ _ hroom => absurd hroom (hfree.not_limited τ room)) ?_ ?_
    · rintro τ r hτ rfl -
      exact ⟨(hremove hτ).looks, (hremove hτ).logs, (hremove hτ).logs'⟩
    · rintro τ r e hτ rfl - -
      exact hremove hτ
  exact hclear σ hσ.1.1

/-- Two runs that clean up, each after itself. -/
theorem lockstep_cleanUp_apart {g : Generator} {s : Settings} {file : Option (Bytes × FileMode)}
    {region : List Text → Prop} (hs : s.Located g.voice.host)
    (htemp : g.voice.host.Takes g.voice.host.temporary) (hfree : g.voice.host.Boundless)
    (hregion : ∀ k ns, (s.scratch g.voice.host k).parts <+: ns → region ns) :
    Action.Lockstep
      (fun σ σ' => Parted region σ σ' ∧ Seasoned s g.voice.host file σ ∧
        Seasoned s g.voice.host file σ') g.cleanUp g.cleanUp (fun _ _ => Parted region)
      fun _ _ => False := by
  have hside (σ' : Session) : g.cleanUp.Ensures
      (fun σ => Parted region σ σ' ∧ Seasoned s g.voice.host file σ) (fun _ σ => Parted region σ σ')
      fun _ _ => False := parted_cleanUp hs htemp hfree hregion
  refine .apart (M := fun _ σ σ' => Parted region σ σ' ∧ Seasoned s g.voice.host file σ')
    (fun σ' σ hσ => ?_) fun _ σ => ?_
  · have hclean : g.cleanUp.Ensures (· = σ)
        (fun _ τ => Parted region τ σ' ∧ Seasoned s g.voice.host file σ') fun _ _ => False := by
      refine (hside σ').weaken ?_ (fun _ _ hτ => ⟨hτ, hσ.2.2⟩) fun _ _ => id
      rintro _ rfl
      exact ⟨hσ.1, hσ.2.1⟩
    exact hclean σ rfl
  · exact (hside σ).weaken (fun _ hτ => ⟨hτ.1.symm, hτ.2⟩) (fun _ _ hτ => hτ.symm) fun _ _ => id

section

variable {g : Generator} {s : Settings} {R S Z : Session → Session → Prop} {t t' : Option Path}
  {f f' : Fault}

/-- Whether a fault can be reported does not depend on the fault. -/
theorem gives_report (g : Generator) (s : Settings) (f : Fault) :
    (g.report s f).Gives
      (if s.force.holds then .ok () else (Settings.levelOf s.logLevel).map fun _ => ()) := by
  rw [report]
  refine .bind (.say _ _ _) (.bind (.say _ _ _) ?_)
  cases s.force.holds with
  | true => exact .pure _
  | false =>
    simp only [Bool.not_false, if_true, Bool.false_eq_true, if_false]
    cases Settings.levelOf s.logLevel with
    | error e => exact .bind_error (.throw e)
    | ok level =>
      simp only [Action.ofExcept, pure_bind, Except.map]
      split
      · exact .bind (.say _ _ _) (.say _ _ _)
      · exact .bind (.say _ _ _) (.say _ _ _)

/-- Runs that a fault stopped end alike, given how they clean up. -/
theorem lockstep_giveUp (hR : Session.StableOn R) (hZ : Session.StableOn Z)
    (hRS : ∀ σ σ', R σ σ' → S σ σ')
    (hclean : Action.Lockstep R g.cleanUp g.cleanUp (fun _ _ => S) fun _ _ => False)
    (hremove : Action.Lockstep S (g.removeTemporary t) (g.removeTemporary t') (fun _ _ => Z) Z)
    (hkind : f.kind = f'.kind) :
    Action.Lockstep R (g.giveUp s t f) (g.giveUp s t' f') (fun r r' σ σ' => r = r' ∧ Z σ σ') Z := by
  have hreport : Action.Lockstep R (g.report s f) (g.report s f') (fun _ _ => R) R := by
    refine (Action.Lockstep.of_gives (S := fun _ _ => True) (g.gives_report s f)
      (g.gives_report s f') hR ?_).weaken (fun _ _ => id) (fun _ _ _ _ hσ => hσ.2) fun _ _ => id
    generalize (if s.force.holds then .ok () else (Settings.levelOf s.logLevel).map fun _ => ()) = r
    cases r with
    | ok u => exact trivial
    | error e => exact (rfl : e.kind = e.kind)
  have hend : Action.Lockstep Z
      (do
        g.voice.error "Generation failed!"
        if g.throws then throw f else pure (none : Option Path))
      (do
        g.voice.error "Generation failed!"
        if g.throws then throw f' else pure none) (fun r r' σ σ' => r = r' ∧ Z σ σ') Z := by
    refine .bind (.say hZ _ _ _ _ _ _) fun _ _ => ?_
    cases g.throws with
    | true => exact .throw hkind fun _ _ => id
    | false => exact .pure fun _ _ hσ => ⟨rfl, hσ⟩
  rw [giveUp, giveUp]
  -- If the fault cannot be reported, nothing is cleaned up.
  refine .bind_observe (Q := fun _ _ => S) (E := S) (.bind (hreport.weaken (fun _ _ => id)
    (fun _ _ _ _ => id) hRS) fun _ _ => hclean.weaken (fun _ _ => id) (fun _ _ _ _ => id)
      fun _ _ hfalse => hfalse.elim) (fun _ _ => .bind hremove fun _ _ => hend) fun e e' hsame => ?_
  exact .bind hremove fun _ _ => .bind (Q := fun _ _ _ _ => False) (.throw hsame fun _ _ => id)
    fun _ _ _ _ hfalse => hfalse.elim

/-- Runs begin as they locate their directories. -/
theorem lockstep_begin {Q : Path × Option Path → Path × Option Path → Session → Session → Prop}
    {E : Session → Session → Prop} (hR : Session.StableOn R)
    (hlocate : Action.Lockstep R (g.locate s) (g.locate s) Q E) :
    Action.Lockstep R (g.begin s) (g.begin s) Q E :=
  .bind (.say hR _ _ _ _ _ _) fun _ _ => hlocate

/-- Two runs as a whole, given their parts. -/
theorem lockstep_generate {c c' : Compiler} {D D' : Path} {J L W : Session → Session → Prop}
    (hZ : Session.StableOn Z)
    (hbegin : Action.Lockstep R (g.begin s) (g.begin s)
      (fun x y σ σ' => (x = (D, t) ∧ y = (D', t')) ∧ J σ σ') L)
    (hsteps : Action.Lockstep J (Generator.steps { g with compiler := c } s D)
      (Generator.steps { g with compiler := c' } s D')
      (fun stored stored' σ σ' => stored = stored' ∧ W σ σ') W)
    (hlost : ∀ f f', f.kind = f'.kind → Action.Lockstep L (g.giveUp s none f) (g.giveUp s none f')
      (fun r r' σ σ' => r = r' ∧ Z σ σ') Z)
    (hstopped : ∀ f f', f.kind = f'.kind → Action.Lockstep W (g.giveUp s t f) (g.giveUp s t' f')
      (fun r r' σ σ' => r = r' ∧ Z σ σ') Z)
    (hremove : Action.Lockstep W (g.removeTemporary t) (g.removeTemporary t') (fun _ _ => Z) Z) :
    Action.Lockstep R (Generator.generate { g with compiler := c } s)
      (Generator.generate { g with compiler := c' } s) (fun r r' σ σ' => r = r' ∧ Z σ σ') Z := by
  rw [generate_eq, generate_eq]
  refine .bind_observe hbegin (fun x y => .assume fun hxy => ?_) hlost
  obtain ⟨rfl, rfl⟩ := hxy
  refine .bind_observe hsteps (fun p q => .assume fun hpq => ?_) hstopped
  subst hpq
  exact .bind hremove fun _ _ => .bind (.say hZ _ _ _ _ _ _) fun _ _ => .pure fun _ _ hZ => ⟨rfl, hZ⟩

end

namespace Parallel

variable {g : Generator} {s : Settings} {c c' : Compiler} {P : List Text → List Text → Prop}
  {K K' : List Text → Prop} {D D' : Path}

/-- Twins clean up alike. -/
theorem lockstep_cleanUp (h : Parallel g s c c' P K K' D D') :
    Action.Lockstep (Paired g.voice.host P K K' D D') g.cleanUp g.cleanUp
      (fun _ _ => Paired g.voice.host P K K' D D') fun _ _ => False := by
  rw [cleanUp]
  refine .get_bind fun σ σ' hσ => ?_
  obtain ⟨emptied, hmark, hmark'⟩ := hσ.2
  simp only [hmark, hmark']
  refine Action.Lockstep.weaken (R := Paired g.voice.host P K K' D D')
    (Q := fun _ _ => Paired g.voice.host P K K' D D') (E := fun _ _ => False) ?_
    (fun τ τ' hτ => by rw [hτ.1, hτ.2]; exact hσ) (fun _ _ _ _ => id) fun _ _ => id
  cases emptied with
  | true => exact .pure fun _ _ => id
  | false =>
    exact .tryCatch (Scratch.lockstep_clear_paired h.free h.mirror h.scratch h.takes.clean
      h.takes'.clean h.ne) fun _ _ => .say stableOn_paired _ _ _ _ _ _

/-- Temporary directories of two runs, if they have any. -/
def Temporaries (P : List Text → List Text → Prop) : Option Path → Option Path → Prop :=
  Option.Rel fun p q => p.Facing P q ∧ p.parts ≠ []

theorem lockstep_removeTemporary (hfree : g.voice.host.Boundless) (hP : Mirror P)
    {t t' : Option Path} (ht : Temporaries P t t') {E : Session → Session → Prop} :
    Action.Lockstep (Twins g.voice.host P K K') (g.removeTemporary t) (g.removeTemporary t')
      (fun _ _ => Twins g.voice.host P K K') E := by
  cases ht with
  | none => exact .pure fun _ _ => id
  | @some p q hpq =>
    rw [removeTemporary, removeTemporary, hfree.removeTree, hfree.removeTree]
    refine .bind (.say Twins.stableOn _ _ _ _ _ _) fun _ _ => .bind
      (Q := fun _ _ => Twins g.voice.host P K K') (.onTree fun σ σ' hσ => ?_) fun _ _ =>
        .pure fun _ _ => id
    have hfollow : Folder.Follow P (fun ns ms => K ns ∨ K' ms)
        (σ.tree.removeTree (σ.spot g.voice.host) p) (σ'.tree.removeTree (σ'.spot g.voice.host) q) :=
      Folder.removeTree_agree hP hσ.trees hpq.1 hpq.2
    exact hσ.withTree hfollow.2

/-- Two runs end with the same result and the same tree, given how they begin. -/
theorem lockstep_generate (h : Parallel g s c c' P K K' D D') {file : Option (Bytes × FileMode)}
    {R L : Session → Session → Prop} {region : List Text → Prop} {t t' : Option Path}
    (hplaces : ∀ ns, ¬ region ns → P ns ns) (hlogs : ∀ ns, K ns ∨ K' ns → region ns)
    (hclears : Clears s file D) (hclears' : Clears s file D')
    (hscratch : ∃ k, D = s.scratch g.voice.host k) (hscratch' : ∃ k, D' = s.scratch g.voice.host k)
    (ht : Temporaries P t t')
    (hbegin : Action.Lockstep R (g.begin s) (g.begin s)
      (fun x y σ σ' => (x = (D, t) ∧ y = (D', t')) ∧ Poised s g.voice.host P K K' D D' file σ σ' ∧
        Fills g s c c' P K K' D D' σ σ') L)
    (hlost : ∀ f f', f.kind = f'.kind → Action.Lockstep L (g.giveUp s none f) (g.giveUp s none f')
      (fun r r' σ σ' => r = r' ∧ Parted region σ σ') (Parted region)) :
    Action.Lockstep R (Generator.generate { g with compiler := c } s)
      (Generator.generate { g with compiler := c' } s)
      (fun r r' σ σ' => r = r' ∧ Parted region σ σ') (Parted region) := by
  have hremove : Action.Lockstep (Paired g.voice.host P K K' D D') (g.removeTemporary t)
      (g.removeTemporary t') (fun _ _ => Parted region) (Parted region) :=
    (lockstep_removeTemporary h.free h.mirror ht).weaken (fun _ _ hσ => hσ.1)
      (fun _ _ _ _ hσ => .of_twins hσ hplaces hlogs) fun _ _ => id
  exact Generator.lockstep_generate Parted.stableOn hbegin
    (h.lockstep_steps hclears hclears' hscratch hscratch') hlost
    (fun f f' => lockstep_giveUp stableOn_paired Parted.stableOn (fun _ _ => id) h.lockstep_cleanUp
      hremove) hremove

end Parallel
end Generator
end AmbientBundle
