import AmbientBundle.Proofs.Generate.Ending
import AmbientBundle.Proofs.Manifest

/-!
# What a generator remembers

A generator reads the manifest of its package once and remembers it from then on.  It also
remembers the scratch directory that it used last.  `Session.Recalls` says that the remembered
manifest is the one that the file in the package states; a run keeps this up to the point where it
needs the manifest, since neither clearing the scratch directory nor a tidy compiler touches that
file.  Reading the file anew then gives the same manifest (`ensures_manifest`).

After a run the file itself may be another one, but what is remembered is still what it said before
(`seasoned_generate`).
-/

namespace AmbientBundle

/-- The file that states the manifest of the package. -/
def Settings.packageFile (s : Settings) : Path :=
  match s.root with
  | .path p => p.child Manifest.fileName
  | .value _ => ⟨.root, []⟩

theorem Settings.Located.packageFile {s : Settings} {host : Host} (hs : s.Located host) :
    host.Takes s.packageFile := by
  obtain ⟨root, hroot, htakes⟩ := hs.root
  rw [Settings.packageFile, hroot]
  exact htakes.child (by decide) (by decide)

namespace Manifest

variable {halves : Halves}

/-- What the file of a manifest states. -/
def Says (halves : Halves) (path : Path) (file : Option (Bytes × FileMode)) (m : Manifest) : Prop :=
  path.Usable ∧ ∃ content mode value, file = some (content, mode) ∧
    parse halves path content = .ok value ∧ ofValue path value = .ok m

theorem Says.unique {path : Path} {file : Option (Bytes × FileMode)} {m m' : Manifest}
    (h : Says halves path file m) (h' : Says halves path file m') : m = m' := by
  obtain ⟨-, content, mode, value, rfl, hparse, hvalue⟩ := h
  obtain ⟨-, content', mode', value', heq, hparse', hvalue'⟩ := h'
  cases heq
  rw [hparse] at hparse'
  cases hparse'
  rw [hvalue] at hvalue'
  exact Except.ok.inj hvalue'

/-- What a file states is what comes of reading it. -/
theorem says_iff {path : Path} (hp : path.Settled) (cwd : Spot) {tree : Folder} {m : Manifest} :
    Says halves path (tree.fileAt path.parts) m ↔
      verdict halves path (tree.readFile cwd path) = .ok m := by
  constructor
  · rintro ⟨husable, content, mode, value, hfile, hparse, hvalue⟩
    rw [(Folder.readFile_eq_ok_iff hp).2 ⟨husable, mode, Option.join_eq_some_iff.1 hfile⟩]
    exact ofContent_eq_ok_iff.2 ⟨value, hparse, hvalue⟩
  · intro h
    cases hread : tree.readFile cwd path with
    | error e =>
      rw [hread] at h
      cases h
    | ok content =>
      rw [hread] at h
      obtain ⟨husable, mode, hlook⟩ := (Folder.readFile_eq_ok_iff hp).1 hread
      obtain ⟨value, hparse, hvalue⟩ := ofContent_eq_ok_iff.1 h
      exact ⟨husable, content, mode, value, by rw [Folder.fileAt, hlook]; rfl, hparse, hvalue⟩

/-- Reading gives the manifest that the file states, or fails because it states none. -/
theorem ensures_read {v : Voice} {root : Path} {file : Option (Bytes × FileMode)}
    {I : Session → Prop} (hp : v.host.Takes (root.child fileName)) (hI : Session.Stable I)
    (hfile : ∀ σ, I σ → σ.tree.fileAt (root.child fileName).parts = file) :
    (read v root).Ensures I (fun m σ => I σ ∧ Says v.host.halves (root.child fileName) file m)
      fun _ σ => I σ ∧ ∀ m, ¬ Says v.host.halves (root.child fileName) file m := by
  intro σ hσ
  obtain ⟨τ, hτ, hfound⟩ := exists_found v root σ
  obtain ⟨σ', hσ', hrun⟩ := outcome_read v root σ
  have hclean : root.fault? v.host.halves = none := fault?_manifestPath _ root ▸ hp.clean
  rw [hrun, hclean, hfound, ← hfile τ (hI σ τ hσ hτ)]
  simp only [says_iff hp.settled (τ.spot v.host)]
  cases verdict v.host.halves (root.child fileName)
    (τ.tree.readFile (τ.spot v.host) (root.child fileName)) with
  | ok m => exact ⟨hI σ σ' hσ hσ', rfl⟩
  | error f => exact ⟨hI σ σ' hσ hσ', fun m hm => nomatch hm⟩

end Manifest

namespace Session

/-- A session of a generator that may have been used before, while the file in the package was a
given one. -/
structure Seasoned (s : Settings) (host : Host) (file : Option (Bytes × FileMode)) (σ : Session) :
    Prop where
  /-- A manifest that is remembered is the one that the file stated. -/
  manifest : ∀ m, σ.manifest = some m → Manifest.Says host.halves s.packageFile file m
  /-- A scratch directory that is remembered is one of the settings. -/
  scratch : ∀ d, σ.scratch = some d → ∃ k, d.path = s.scratch host k

/-- A session in which that file is still there, and is no log file. -/
structure Recalls (s : Settings) (host : Host) (file : Option (Bytes × FileMode)) (σ : Session) :
    Prop where
  /-- The file is there. -/
  there : σ.tree.fileAt s.packageFile.parts = file
  /-- Reports do not go to it. -/
  unlogged : ¬ σ.Writes s.packageFile.parts
  /-- What is remembered is right. -/
  seasoned : σ.Seasoned s host file

section

variable {s : Settings} {host : Host} {file : Option (Bytes × FileMode)} {σ : Session}

theorem stable_seasoned : Stable (Seasoned s host file) := fun _ _ hσ hrep =>
  ⟨fun m hm => hσ.manifest m (hrep.manifest ▸ hm), fun d hd => hσ.scratch d (hrep.scratch ▸ hd)⟩

theorem Seasoned.marked (h : σ.Seasoned s host file) (emptied : Bool) :
    (Scratch.marked emptied σ).Seasoned s host file := by
  refine ⟨h.manifest, fun d hd => ?_⟩
  obtain ⟨d', hd', rfl⟩ := Option.map_eq_some_iff.1 hd
  exact h.scratch d' hd'

/-- Limits do not matter to what is remembered. -/
theorem Seasoned.boundless (h : σ.Seasoned s host file) : σ.Seasoned s host.boundless file :=
  ⟨h.manifest, h.scratch⟩

theorem Seasoned.withTree (h : σ.Seasoned s host file) (host' : Host) (tree : Folder) :
    (σ.withTree host' tree).Seasoned s host file := ⟨h.manifest, h.scratch⟩

theorem stable_recalls : Stable (Recalls s host file) := by
  intro σ τ hσ hrep
  refine ⟨?_, fun h => hσ.unlogged ((hrep.writes_iff _).1 h), stable_seasoned σ τ hσ.seasoned hrep⟩
  rw [Folder.fileAt, hrep.look _ hσ.unlogged]
  exact hσ.there

theorem Recalls.withTree (h : σ.Recalls s host file) (host' : Host) {tree : Folder}
    (htree : tree.fileAt s.packageFile.parts = file) : (σ.withTree host' tree).Recalls s host file :=
  ⟨htree, fun hw => h.unlogged (writes_withTree hw).1, h.seasoned.withTree host' tree⟩

theorem Recalls.marked (h : σ.Recalls s host file) (emptied : Bool) :
    (Scratch.marked emptied σ).Recalls s host file :=
  ⟨h.there, h.unlogged, h.seasoned.marked emptied⟩

end
end Session

namespace Generator

open Session (Recalls Seasoned)

section

variable {g : Generator} {s : Settings} {file : Option (Bytes × FileMode)} {D : Path}

/-- The manifest of a run is the one that the file states, whether it is remembered or read. -/
theorem ensures_manifest (hs : s.Located g.voice.host) :
    (g.manifest s).Ensures (Recalls s g.voice.host file)
      (fun m σ => Recalls s g.voice.host file σ ∧
        Manifest.Says g.voice.host.halves s.packageFile file m)
      fun _ σ => Recalls s g.voice.host file σ ∧
        ∀ m, ¬ Manifest.Says g.voice.host.halves s.packageFile file m := by
  have htakes := hs.packageFile
  obtain ⟨root, hroot, -⟩ := hs.root
  have hpath : s.packageFile = root.child Manifest.fileName := by rw [Settings.packageFile, hroot]
  rw [manifest]
  refine .get_bind fun σ hσ => ?_
  cases hmanifest : σ.manifest with
  | some m =>
    refine .pure fun τ hτ => ?_
    rw [hτ]
    exact ⟨hσ, hσ.seasoned.manifest m hmanifest⟩
  | none =>
    simp only [hroot, Setting.toPath, Action.ofExcept, pure_bind]
    have hread := Manifest.ensures_read (v := g.voice) (I := Recalls s g.voice.host file)
      (hpath ▸ htakes) Session.stable_recalls fun τ hτ => hpath ▸ hτ.there
    rw [← hpath] at hread
    refine .bind (hread.weaken (fun τ (hτ : τ = σ) => hτ ▸ hσ) (fun _ _ => id) fun _ _ => id)
      fun m => .bind (Q := fun _ τ => Recalls s g.voice.host file τ ∧
        Manifest.Says g.voice.host.halves s.packageFile file m)
        (.modify fun τ hτ => ?_) fun _ => .pure fun _ => id
    refine ⟨⟨hτ.1.there, hτ.1.unlogged, fun m' hm' => ?_, hτ.1.seasoned.scratch⟩, hτ.2⟩
    exact Option.some.inj hm' ▸ hτ.2

/-! ## Up to the manifest -/

/-- A scratch directory that does not take the place of the file in the package: it does not hold
that place, or it stands there instead of a file. -/
def Clears (s : Settings) (file : Option (Bytes × FileMode)) (D : Path) : Prop :=
  ¬ D.parts <+: s.packageFile.parts ∨ (D.parts = s.packageFile.parts ∧ D.parts ≠ [] ∧ file = none)

theorem recalls_removed {σ : Session} (hD : D.Settled) (hclears : Clears s file D)
    (hσ : Recalls s g.voice.host file σ) : Recalls s g.voice.host file
      (σ.withTree g.voice.host (σ.tree.removeTree (σ.spot g.voice.host) D).2) := by
  refine hσ.withTree _ ?_
  rcases hclears with houtside | ⟨hsame, hne, rfl⟩
  · exact (Folder.fileAt_removeTree hD houtside).trans hσ.there
  · exact Folder.fileAt_removeTree_eq_none hD hne hσ.there

/-- What is left of a directory that is too deep is no file either. -/
theorem recalls_stuck {σ : Session} {room : Nat} {left : Folder} (hD : D.Settled)
    (hclears : Clears s file D) (hσ : Recalls s g.voice.host file σ)
    (hstuck : σ.tree.stuck? room (σ.spot g.voice.host) D = some left) :
    Recalls s g.voice.host file (σ.withTree g.voice.host left).stopped := by
  have hthere : left.fileAt s.packageFile.parts = file := by
    rcases hclears with houtside | ⟨hsame, hne, rfl⟩
    · exact (Folder.fileAt_stuck hD hstuck houtside).trans hσ.there
    · obtain ⟨⟨inner, hdir, -⟩, -⟩ := Folder.stuck?_spec hD hne hstuck
      rw [← hsame, Folder.fileAt, Folder.look_eq_dir_iff.2 ⟨inner, hdir⟩]
      rfl
  have hafter := hσ.withTree g.voice.host hthere
  exact ⟨hafter.there, hafter.unlogged, hafter.seasoned.manifest, hafter.seasoned.scratch⟩

theorem recalls_clear (hD : g.voice.host.Takes D) (hclears : Clears s file D) :
    (Scratch.clear g.voice D).Keeps (Recalls s g.voice.host file) := by
  refine Scratch.ensures_clear hD.clean Session.stable_recalls Session.stable_recalls
    (fun _ => Session.stable_recalls)
    (fun σ room left hσ _ => recalls_stuck hD.settled hclears hσ) ?_ ?_
  · rintro σ r hσ rfl -
    exact (recalls_removed hD.settled hclears hσ).marked true
  · rintro σ r e hσ rfl - -
    exact recalls_removed hD.settled hclears hσ

theorem recalls_reset (hD : g.voice.host.Takes D) (hclears : Clears s file D)
    (hstill : g.voice.host.Still) :
    (Scratch.reset g.voice {} D).Keeps (Recalls s g.voice.host file) := by
  have hmake {σ : Session} (hσ : Recalls s g.voice.host file σ) : Recalls s g.voice.host file
      (σ.withTree g.voice.host (σ.tree.makeDirs (σ.spot g.voice.host) D).2) :=
    hσ.withTree _ ((Folder.fileAt_makeDirs hD.settled).trans hσ.there)
  refine .bind (.say Session.stable_recalls _ _ _) fun _ => .bind (recalls_clear hD hclears) fun _ =>
    Scratch.ensures_make hD.clean Session.stable_recalls Session.stable_recalls
      (fun σ hσ => ⟨hσ.there, hσ.unlogged, hσ.seasoned.manifest, hσ.seasoned.scratch⟩) ?_ ?_ ?_ _
  · rintro σ r hσ rfl -
    exact (hmake hσ).marked false
  · rintro σ r hσ rfl -
    exact hmake hσ
  · refine Scratch.ensures_wait hstill fun σ k hσ => ?_
    have hwaited := hσ.withTree g.voice.host hσ.there
    exact ⟨hwaited.there, hwaited.unlogged, hwaited.seasoned.manifest, hwaited.seasoned.scratch⟩

theorem seasoned_clear {host : Host} (hclean : D.fault? g.voice.host.halves = none) :
    (Scratch.clear g.voice D).Keeps (Seasoned s host file) :=
  Scratch.ensures_clear hclean Session.stable_seasoned Session.stable_seasoned
    (fun _ => Session.stable_seasoned) (fun _ _ _ hσ _ _ => ⟨hσ.manifest, hσ.scratch⟩)
    (fun _ _ hσ _ _ => (hσ.withTree _ _).marked true) fun _ _ _ hσ _ _ _ => hσ.withTree _ _

/-- A launch that changes nothing outside of such a directory, and puts no file in its place,
leaves the file in the package as it is. -/
theorem Clears.there (hclears : Clears s file D) {tree left : Folder}
    (htree : tree.fileAt s.packageFile.parts = file)
    (haside : ∀ ns, ¬ D.parts <+: ns → left.look ns = tree.look ns) (hnone : left.fileAt D.parts = none) :
    left.fileAt s.packageFile.parts = file := by
  rcases hclears with houtside | ⟨hsame, -, rfl⟩
  · rw [Folder.fileAt, haside _ houtside]
    exact htree
  · rw [← hsame]
    exact hnone

theorem recalls_launched {c : Compiler} {l : Launch} {σ : Session}
    (hσ : Recalls s g.voice.host file σ)
    (hthere : (launched c l σ).tree.fileAt s.packageFile.parts = file) :
    Recalls s g.voice.host file (launched c l σ) := by
  have hnoted : Recalls s g.voice.host file { σ with launches := σ.launches ++ [l] } :=
    ⟨hσ.there, hσ.unlogged, hσ.seasoned.manifest, hσ.seasoned.scratch⟩
  exact hnoted.withTree _ hthere

/-- A run recalls the manifest while it works in its scratch directory. -/
theorem phases_recalls (hs : s.Located g.voice.host) (hD : g.voice.host.Takes D)
    (hclears : Clears s file D) (hstill : g.voice.host.Still) :
    Phases g s D (Recalls s g.voice.host file) (Recalls s g.voice.host file)
      (Seasoned s g.voice.host file) (Seasoned s g.voice.host file) where
  stable_made := Session.stable_recalls
  stable_cleared := Session.stable_seasoned
  manifest := (ensures_manifest hs).weaken (fun _ => id) (fun _ _ h => h.1) fun _ _ h => h.1
  reset := (recalls_reset hD hclears hstill).weaken (fun _ => id) (fun _ _ => id)
    fun _ _ h => h.seasoned
  clear := (seasoned_clear hD.clean).weaken (fun _ h => h.seasoned) (fun _ _ => id) fun _ _ => id
  failed_of_made := fun _ h => h.seasoned
  failed_of_cleared := fun _ => id

/-! ## After a run -/

theorem seasoned_store {host : Host} (source : Text) :
    (g.store s source).Keeps (Seasoned s host file) :=
  Action.Ensures.weaken (ensures_store (K := fun _ => Seasoned s host file) Session.stable_seasoned
    (fun _ => Session.stable_seasoned) (fun _ hσ => ⟨hσ.manifest, hσ.scratch⟩)
    (fun _ _ _ hσ => hσ.withTree _ _) fun _ _ _ _ hσ _ => hσ.withTree _ _) (fun _ => id)
    (fun _ _ h => h.1) fun _ _ h => h.elim id fun ⟨_, _, _, hσ⟩ => hσ

theorem seasoned_removeTemporary {host : Host} {temporary : Option Path} :
    (g.removeTemporary temporary).Keeps (Seasoned s host file) :=
  ensures_removeTemporary Session.stable_seasoned (fun _ _ => id)
    (fun _ _ _ _ _ hσ _ _ => ⟨hσ.manifest, hσ.scratch⟩) fun _ _ _ hσ => hσ.withTree _ _

theorem seasoned_giveUp (hs : s.Located g.voice.host)
    (htemp : g.voice.host.Takes g.voice.host.temporary) {temporary : Option Path} {f : Fault} :
    (g.giveUp s temporary f).Keeps (Seasoned s g.voice.host file) := by
  refine (ensures_giveUp Session.stable_seasoned Session.stable_seasoned (Or.inr fun _ => id)
    (ensures_cleanUp Session.stable_seasoned (fun _ hσ _ => hσ) fun d _ => ?_)
    seasoned_removeTemporary).weaken (fun _ => id) (fun _ _ h => h.2) fun _ _ h => h.elim id And.right
  -- The directory to be cleared is one of the settings.
  intro σ hσ
  obtain ⟨k, hk⟩ := hσ.1.scratch d hσ.2
  exact (seasoned_clear (hk ▸ (hs.scratch htemp k).clean)).weaken (fun _ => id) (fun _ _ => id)
    (fun _ _ => id) σ hσ.1

/-- A run whose launch, if it comes to one, leaves the file in the package as it is. -/
def Leaves (g : Generator) (s : Settings) (file : Option (Bytes × FileMode)) (σ : Session) : Prop :=
  ∀ l τ, (g.approach s).outcome σ = (.ok l, τ) → τ.tree.fileAt s.packageFile.parts = file →
    (launched g.compiler l τ).tree.fileAt s.packageFile.parts = file

/-- A compiler that touches nothing else does so in a directory that does not hold the file. -/
theorem leaves_of_confined (hs : s.Located g.voice.host)
    (htemp : g.voice.host.Takes g.voice.host.temporary) (hcompiler : g.compiler.Confined) {σ : Session}
    (hout : ¬ (s.scratch g.voice.host (σ.temporaries + 1)).parts <+: s.packageFile.parts) :
    Leaves g s file σ := by
  intro l τ hrun hfile
  obtain ⟨options, cwd, rfl⟩ := approach_writes hs hrun
  have hscratch := (hs.scratch htemp (σ.temporaries + 1)).settled
  change (g.compiler.launcher _ _ τ.tree).2.fileAt s.packageFile.parts = file
  rw [Folder.fileAt, Compiler.launchIn, hcompiler _ options cwd _ _ _ hscratch _ hout]
  exact hfile

/-- A run that starts with the right manifest leaves no other one behind. -/
theorem seasoned_generate (hs : s.Located g.voice.host)
    (htemp : g.voice.host.Takes g.voice.host.temporary) (hstill : g.voice.host.Still) {σ₀ : Session}
    (hσ₀ : Recalls s g.voice.host file σ₀)
    (hclears : Clears s file (s.scratch g.voice.host (σ₀.temporaries + 1)))
    (hleaves : Leaves g s file σ₀) :
    (g.generate s).Ensures (· = σ₀) (fun _ => Seasoned s g.voice.host file)
      fun _ => Seasoned s g.voice.host file := by
  have hmake {σ : Session} (hσ : Recalls s g.voice.host file σ) : Recalls s g.voice.host file
      { σ.withTree g.voice.host (σ.tree.makeDirs (σ.spot g.voice.host)
        (g.voice.host.temporaryAt (σ₀.temporaries + 1))).2 with
        temporaries := σ₀.temporaries + 1 } := by
    have hmade : Recalls s g.voice.host file (σ.withTree g.voice.host (σ.tree.makeDirs
        (σ.spot g.voice.host) (g.voice.host.temporaryAt (σ₀.temporaries + 1))).2) :=
      hσ.withTree _ ((Folder.fileAt_makeDirs (Host.takes_temporaryAt htemp _).settled).trans hσ.there)
    exact ⟨hmade.there, hmade.unlogged, hmade.seasoned.manifest, hmade.seasoned.scratch⟩
  have hlocate := ensures_locate (g := g) (n := σ₀.temporaries) (J := Recalls s g.voice.host file)
    (F := Seasoned s g.voice.host file) hs Session.stable_recalls (fun _ _ hσ => hσ)
    (fun _ hσ _ => hmake hσ) fun _ hσ _ => (hmake hσ).seasoned
  have hbundled := (phases_recalls hs (hs.scratch htemp (σ₀.temporaries + 1)) hclears hstill).bundled
    (P := fun τ => Recalls s g.voice.host file τ ∧ (g.begin s).outcome σ₀ =
      (.ok (s.scratch g.voice.host (σ₀.temporaries + 1),
        s.temporary? g.voice.host (σ₀.temporaries + 1)), τ))
    (fun σ hσ => ⟨hσ.1.there, hσ.1.unlogged, hσ.1.seasoned.manifest, fun d hd => ⟨_, by cases hd; rfl⟩⟩)
    fun σ options dir τ hσ hready hτ => by
      refine recalls_launched hτ (hleaves _ τ ?_ hτ.there)
      rw [approach, Action.outcome_bind_ok hσ.2]
      exact hready
  exact ensures_generate (M := fun _ => Seasoned s g.voice.host file)
    (fun σ τ hσ hrep => ⟨Session.stable_recalls σ τ hσ.1 hrep, hrep.temporaries.trans hσ.2⟩)
    (fun _ => Session.stable_seasoned) hlocate
    (ensures_steps hbundled (D := fun _ _ => Seasoned s g.voice.host file)
      (E := fun _ => Seasoned s g.voice.host file) seasoned_store fun _ _ => id)
    (fun f => (seasoned_giveUp hs htemp).weaken (fun σ hσ => hσ.2) (fun _ _ => id) fun _ _ => id)
    (fun f => seasoned_giveUp hs htemp) (fun _ => seasoned_removeTemporary) (fun _ _ => id) ⟨hσ₀, rfl⟩

end
end Generator
end AmbientBundle
