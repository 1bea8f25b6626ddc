import AmbientBundle.Proofs.Generate.Phases

/-!
# What a run leaves alone

A run clears, fills and removes the files of its area and writes one file, the bundle.  Every other
file is afterwards what it was before, whether the run ended well or not, and no other file is new.
A run that fails has not written the bundle either, with one exception: the file is emptied first,
and stays empty if the bundle turns out to have no UTF-8.

`Session.Kept` relates the sessions before and after a part of a run by the files outside of a
region.  It is one of the properties that no change in the region concerns (`Session.Aloof`), and
every step keeps these: removing a directory touches what is in it, also where it stops half-way,
making directories touches no file, and a confined compiler touches its own directory.
-/

namespace AmbientBundle

/-! ## Files that are kept -/

namespace Folder

variable {f g : Folder} {cwd : Spot} {p : Path} {ns : List Text} {room : Nat}

theorem fileAt_makeDirs (hp : p.Settled) : (f.makeDirs cwd p).2.fileAt ns = f.fileAt ns := by
  rcases frame_makeDirs hp ns not_false with hsame | ⟨_, hnone, hdir⟩
  · rw [fileAt, fileAt, hsame]
  · rw [fileAt, fileAt, hnone, hdir]
    rfl

theorem look_removeTree_outside (hp : p.Settled) (hns : ¬ p.parts <+: ns) :
    (f.removeTree cwd p).2.look ns = f.look ns := by
  have hne : p.parts ≠ [] := fun hnil => hns (by rw [hnil]; exact List.nil_prefix)
  rcases removeTree_cases hp hne with ⟨_, _, hlook⟩ | ⟨_, hsame, _⟩
  · rw [hlook, if_neg hns]
  · rw [hsame]

theorem fileAt_removeTree (hp : p.Settled) (hns : ¬ p.parts <+: ns) :
    (f.removeTree cwd p).2.fileAt ns = f.fileAt ns := by
  rw [fileAt, fileAt, look_removeTree_outside hp hns]

/-- Nor is anything else touched where removing a directory stops half-way. -/
theorem fileAt_stuck (hp : p.Settled) (hstuck : f.stuck? room cwd p = some g)
    (hns : ¬ p.parts <+: ns) : g.fileAt ns = f.fileAt ns := by
  have hne : p.parts ≠ [] := fun hnil => hns (by rw [hnil]; exact List.nil_prefix)
  rw [fileAt, fileAt, (stuck?_spec hp hne hstuck).2.2 ns hns]

end Folder

namespace Session

/-- A property of sessions that neither reports nor changes of files in a region concern. -/
structure Aloof (region : List Text → Prop) (T : Session → Prop) : Prop where
  /-- Reports do not matter. -/
  stable : Stable T
  /-- Nothing counts but the tree and the journal. -/
  congr : ∀ σ τ, T σ → τ.tree = σ.tree → τ.journal = σ.journal → T τ
  /-- The files in the region do not matter. -/
  aside : ∀ σ host tree, T σ → (∀ ns, ¬ region ns → tree.fileAt ns = σ.tree.fileAt ns) →
    T (σ.withTree host tree)

/-- A session after a part of a run that changed files in a region only, apart from the log file. -/
structure Kept (region : List Text → Prop) (σ₀ σ : Session) : Prop where
  /-- The other files are what they were. -/
  files : ∀ ns, ¬ region ns → ¬ σ₀.Logs ns → σ.tree.fileAt ns = σ₀.tree.fileAt ns
  /-- The log file is where it was. -/
  logs : ∀ ns, σ.Logs ns ↔ σ₀.Logs ns

namespace Kept

variable {region region' : List Text → Prop} {σ₀ σ : Session}

theorem refl (region : List Text → Prop) (σ : Session) : σ.Kept region σ :=
  ⟨fun _ _ _ => rfl, fun _ => Iff.rfl⟩

theorem mono (h : σ₀.Kept region σ) (hregion : ∀ ns, region ns → region' ns) : σ₀.Kept region' σ :=
  ⟨fun ns hns => h.files ns fun hr => hns (hregion ns hr), h.logs⟩

theorem aloof (hregion : ∀ ns, region ns → region' ns) : Aloof region (σ₀.Kept region') where
  stable := by
    intro σ τ hσ hrep
    refine ⟨fun ns hns hlog => ?_, fun ns => (hrep.logs_iff ns).trans (hσ.logs ns)⟩
    rw [Folder.fileAt, hrep.look ns fun h => hlog ((hσ.logs ns).1 (logs_of_writes h))]
    exact hσ.files ns hns hlog
  congr := by
    intro σ τ hσ htree hjournal
    refine ⟨fun ns => ?_, fun ns => ?_⟩
    · rw [htree]
      exact hσ.files ns
    · rw [Logs, hjournal]
      exact hσ.logs ns
  aside := fun σ host tree hσ htree =>
    ⟨fun ns hns hlog => (htree ns fun h => hns (hregion ns h)).trans (hσ.files ns hns hlog),
      fun ns => logs_withTree.trans (hσ.logs ns)⟩

end Kept

/-- A session whose scratch directory in use, if there is one, is at a path. -/
def Uses (path : Path) (σ : Session) : Prop := ∀ d, σ.scratch = some d → d.path = path

/-- A session with no scratch directory that would have to be cleared. -/
def Idle (σ : Session) : Prop := ∀ d, σ.scratch = some d → d.emptied = true

theorem stable_idle : Stable Idle := by
  intro σ τ hσ hrep
  rw [Idle, hrep.scratch]
  exact hσ

theorem Uses.marked {σ : Session} {path : Path} (h : σ.Uses path) (emptied : Bool) :
    (Scratch.marked emptied σ).Uses path := by
  intro d hd
  obtain ⟨d', hd', rfl⟩ := Option.map_eq_some_iff.1 hd
  exact h d' hd'

end Session

/-! ## The steps of a run -/

namespace Generator

section

variable {g : Generator} {s : Settings} {region : List Text → Prop} {T : Session → Prop} {path : Path}

/-- What every step of a run keeps: a property that the files of a region do not concern, and the
path of the scratch directory. -/
def Spares (T : Session → Prop) (path : Path) (σ : Session) : Prop := T σ ∧ σ.Uses path

theorem stable_spares (hT : Session.Stable T) : Session.Stable (Spares T path) := fun σ τ hσ hrep =>
  ⟨hT σ τ hσ.1 hrep, fun d hd => hσ.2 d (hrep.scratch ▸ hd)⟩

theorem spares_clear (hT : Session.Aloof region T) (hpath : g.voice.host.Takes path)
    (hregion : ∀ ns, path.parts <+: ns → region ns) :
    (Scratch.clear g.voice path).Keeps (Spares T path) := by
  have hremove {σ : Session} (hσ : Spares T path σ) : Spares T path
      (σ.withTree g.voice.host (σ.tree.removeTree (σ.spot g.voice.host) path).2) :=
    ⟨hT.aside _ _ _ hσ.1 fun ns hns =>
      Folder.fileAt_removeTree hpath.settled fun h => hns (hregion ns h), hσ.2⟩
  refine Scratch.ensures_clear hpath.clean (stable_spares hT.stable) (stable_spares hT.stable)
    (fun _ => stable_spares hT.stable) ?_ ?_ ?_
  · intro σ room left hσ _ hstuck
    exact ⟨hT.congr _ _ (hT.aside σ g.voice.host left hσ.1 fun ns hns =>
      Folder.fileAt_stuck hpath.settled hstuck fun h => hns (hregion ns h)) rfl rfl, hσ.2⟩
  · rintro σ r hσ rfl -
    exact ⟨hT.congr _ _ (hremove hσ).1 rfl rfl, (hremove hσ).2.marked true⟩
  · rintro σ r e hσ rfl - -
    exact hremove hσ

theorem spares_reset (hT : Session.Aloof region T) (hpath : g.voice.host.Takes path)
    (hregion : ∀ ns, path.parts <+: ns → region ns) (hstill : g.voice.host.Still) :
    (Scratch.reset g.voice {} path).Keeps (Spares T path) := by
  have hstable : Session.Stable (Spares T path) := stable_spares hT.stable
  have hmake {σ : Session} (hσ : Spares T path σ) : Spares T path
      (σ.withTree g.voice.host (σ.tree.makeDirs (σ.spot g.voice.host) path).2) :=
    ⟨hT.aside _ _ _ hσ.1 fun ns _ => Folder.fileAt_makeDirs hpath.settled, hσ.2⟩
  refine .bind (.say hstable _ _ _) fun _ => .bind (spares_clear hT hpath hregion) fun _ =>
    Scratch.ensures_make hpath.clean hstable hstable (fun σ hσ => ⟨hT.congr _ _ hσ.1 rfl rfl, hσ.2⟩)
      ?_ ?_ ?_ _
  · rintro σ r hσ rfl -
    exact ⟨hT.congr _ _ (hmake hσ).1 rfl rfl, (hmake hσ).2.marked false⟩
  · rintro σ r hσ rfl -
    exact hmake hσ
  · exact Scratch.ensures_wait hstill fun σ k hσ =>
      ⟨hT.congr _ _ (hT.aside σ g.voice.host σ.tree hσ.1 fun _ _ => rfl) rfl rfl, hσ.2⟩

/-- A run spares what is outside of a region that holds its scratch directory. -/
theorem phases_spares (hT : Session.Aloof region T) (hpath : g.voice.host.Takes path)
    (hregion : ∀ ns, path.parts <+: ns → region ns) (hstill : g.voice.host.Still) :
    Phases g s path (Spares T path) (Spares T path) (Spares T path) (Spares T path) where
  stable_made := stable_spares hT.stable
  stable_cleared := stable_spares hT.stable
  manifest := keeps_manifest (stable_spares hT.stable) fun _ _ hσ => ⟨hT.congr _ _ hσ.1 rfl rfl, hσ.2⟩
  reset := spares_reset hT hpath hregion hstill
  clear := spares_clear hT hpath hregion
  failed_of_made := fun _ => id
  failed_of_cleared := fun _ => id

/-- So does the compiler. -/
theorem spares_launched (hT : Session.Aloof region T) (hpath : path.Settled)
    (hregion : ∀ ns, path.parts <+: ns → region ns) (hcompiler : g.compiler.Confined)
    (options : List Text) (dir : Path) {σ : Session} (hσ : Spares T path σ) :
    Spares T path (launched g.compiler (g.compiler.launchIn dir
      (Compiler.baseCommand g.compiler.executable path ++ options)) σ) := by
  refine ⟨hT.aside _ _ _ (hT.congr σ _ hσ.1 rfl rfl) fun ns hns => ?_, hσ.2⟩
  rw [Folder.fileAt, Compiler.launchIn, hcompiler path options dir _ _ _ hpath ns fun h =>
    hns (hregion ns h)]
  rfl

end

/-! ## Runs -/

section

variable {g : Generator} {s : Settings} {region : List Text → Prop} {σ₀ : Session}

end

end Generator

namespace Sample

/-- A journal that is kept in a file of the package. -/
def logging (name : Text) : Journal where
  level := some Level.info
  handlers := [⟨Level.info, .console⟩, ⟨Level.info, .file ⟨["pkg".toList, name], false⟩⟩]

end Sample

end AmbientBundle
