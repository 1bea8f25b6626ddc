import AmbientBundle.Proofs.Generate.Frame
import AmbientBundle.Proofs.Generate.Limits

/-!
# How a run ends

A run ends as its attempt does (`generate_ends`).  If every step succeeds, the run gives the path
of the bundle, and the file there holds the text that was aggregated.  If a step fails, the run
gives nothing, or throws the fault of that very step.  All of this is shown on hosts without limits
first, and so it holds wherever no limit is met.

Either way nothing is left of the area of the run, the scratch directory of the settings or the
temporary directory, if no file was in its place.  The argument follows the mark that a session
keeps of its scratch directory.  A directory that is marked as cleared is gone, since a place
without a file is empty after every attempt to remove it (`isThere_removeTree`), whether that
attempt is reported as a failure or not; a directory that is not marked is cleared when the run
gives up.
-/

namespace AmbientBundle

namespace Folder

variable {f g : Folder} {cwd : Spot} {p : Path} {ns : List Text}

/-! ## Places without a file -/

theorem SameShape.fileAt_eq_none (h : f.SameShape g) (hnone : f.fileAt ns = none) :
    g.fileAt ns = none := by
  rw [fileAt, look] at hnone ⊢
  rcases kind_cases (h ns) with ⟨_, hg⟩ | ⟨_, _, _, hf, _⟩ | ⟨_, _, _, hg⟩
  · rw [hg]
    rfl
  · rw [hf] at hnone
    cases hnone
  · rw [hg]
    rfl

/-- What is neither a directory nor a file is not there. -/
theorem isThere_eq_false (hp : p.Settled) (hdir : f.isDir cwd p = false)
    (hfile : f.fileAt p.parts = none) (spot : Spot) : f.isThere spot p = false := by
  rw [Bool.eq_false_iff] at hdir ⊢
  intro hthere
  obtain ⟨husable, hlook⟩ := (isThere_iff hp).1 hthere
  cases hsurface : f.look p.parts with
  | none => exact hlook hsurface
  | some surface =>
    cases surface with
    | none => exact hdir ((isDir_iff hp).2 ⟨husable, hsurface⟩)
    | some c =>
      rw [fileAt, hsurface] at hfile
      cases hfile

theorem fileAt_removeTree_eq_none (hp : p.Settled) (hne : p.parts ≠ [])
    (hnone : f.fileAt ns = none) : (f.removeTree cwd p).2.fileAt ns = none := by
  rcases removeTree_cases hp hne with ⟨_, _, hlook⟩ | ⟨_, hsame, _⟩
  · rw [fileAt, hlook]
    split
    · rfl
    · exact hnone
  · rwa [hsame]

/-- After an attempt to remove it, a directory is gone, even if the attempt fails. -/
theorem isThere_removeTree (hp : p.Settled) (hne : p.parts ≠ []) (hfile : f.fileAt p.parts = none)
    (spot : Spot) : (f.removeTree cwd p).2.isThere spot p = false := by
  rcases removeTree_cases hp hne with ⟨_, _, hlook⟩ | ⟨hdir, hsame, _⟩
  · rw [Bool.eq_false_iff]
    intro hthere
    exact ((isThere_iff hp).1 hthere).2 (by rw [hlook, if_pos List.prefix_rfl])
  · rw [hsame]
    exact isThere_eq_false hp hdir hfile spot

/-- A directory that could not be made is not there. -/
theorem isThere_makeDirs (hp : p.Settled) (hfile : f.fileAt p.parts = none)
    (hrefused : (f.makeDirs cwd p).1 ≠ .ok ()) (spot : Spot) :
    (f.makeDirs cwd p).2.isThere spot p = false := by
  have hdir : (f.makeDirs cwd p).2.isDir cwd p = false := by
    rw [Bool.eq_false_iff]
    exact fun hdir => hrefused ((makeDirs_eq_ok_iff hp).2 hdir)
  exact isThere_eq_false hp hdir ((fileAt_makeDirs hp).trans hfile) spot

/-- No file is left at or below a directory that has been removed or was missing. -/
theorem fileAt_removeTree_inside (hp : p.Settled)
    (hremoved : ∀ e, (f.removeTree cwd p).1 = .error e → e.errno = .noEntry)
    (hns : p.parts <+: ns) : (f.removeTree cwd p).2.fileAt ns = none := by
  rw [fileAt, look_removeTree_inside hp hremoved hns]
  rfl

end Folder

theorem Settings.levelOf_text (t : Text) : ∃ level, Settings.levelOf (.text t) = .ok level := by
  rw [Settings.levelOf]
  split
  · exact ⟨_, rfl⟩
  · exact ⟨_, rfl⟩

/-- A tidy compiler puts no file where its directory or one above it was. -/
theorem Compiler.Tidy.fileAt_eq_none {c : Compiler} (h : c.Tidy) {dir p : Path} {options : List Text}
    {cwd : Path} {search : Text} {spot : Spot} {tree : Folder} (hdir : dir.Settled)
    (hp : p.parts <+: dir.parts) (hnone : tree.fileAt p.parts = none) :
    (c.launcher ⟨baseCommand c.executable dir ++ options, cwd, search⟩ spot tree).2.fileAt p.parts =
      none := by
  by_cases hsame : p.parts = dir.parts
  · rw [hsame] at hnone ⊢
    exact h.noFile dir options cwd search spot tree hdir hnone
  · rw [Folder.fileAt, h.confined dir options cwd search spot tree hdir p.parts fun hle =>
      hsame (hp.eq_of_length (Nat.le_antisymm hp.length_le hle.length_le))]
    exact hnone

namespace Generator

/-! ## The bundle -/

section

variable {g : Generator} {s : Settings} {path : Path} {σ₀ : Session}

/-- The file at a path was written: it holds the bytes, unless it is a device and was one before. -/
def Written (σ₀ σ : Session) (target : Path) (bytes : Bytes) : Prop :=
  ∃ mode, σ.tree.fileAt target.parts = some (mode.kept bytes, mode) ∧
    (mode = .sink → ∃ old, σ₀.tree.fileAt target.parts = some (old, .sink))

/-- A bundle was stored: its text has UTF-8, and its file was written if it is neither a log file nor
in the temporary directory. -/
def Stored (g : Generator) (s : Settings) (temporary : Option Path) (σ₀ : Session)
    (stored : Text × Path) (σ : Session) : Prop :=
  s.outputPath g.voice.host = .ok stored.2 ∧
    ∃ bytes, g.voice.host.halves.encode? stored.1 = some bytes ∧
      ((∀ dir, temporary = some dir → ¬ dir.parts <+: stored.2.parts) →
        (∀ ns, σ.Logs ns ↔ σ₀.Logs ns) ∧
          (¬ σ₀.Logs stored.2.parts → Written σ₀ σ stored.2 bytes))

/-- A session whose scratch directory holds no file any more. -/
def Swept (path : Path) (σ₀ σ : Session) : Prop :=
  Spares (σ₀.Kept (path.parts <+: ·)) path σ ∧ ∀ ns, path.parts <+: ns → σ.tree.fileAt ns = none

theorem stable_swept : Session.Stable (Swept path σ₀) := fun σ τ hσ hrep =>
  ⟨stable_spares (Session.Kept.aloof fun _ => id).stable σ τ hσ.1 hrep,
    fun ns hns => hrep.shape.fileAt_eq_none (hσ.2 ns hns)⟩

theorem stable_written {target : Path} {bytes : Bytes} :
    Session.Stable fun σ => (∀ ns, σ.Logs ns ↔ σ₀.Logs ns) ∧
      (¬ σ₀.Logs target.parts → Written σ₀ σ target bytes) := by
  intro σ τ hσ hrep
  refine ⟨fun ns => (hrep.logs_iff ns).trans (hσ.1 ns), fun hlog => ?_⟩
  obtain ⟨mode, hfile, hsink⟩ := hσ.2 hlog
  refine ⟨mode, ?_, hsink⟩
  rwa [Folder.fileAt, hrep.look _ fun h => hlog ((hσ.1 _).1 (Session.logs_of_writes h))]

theorem stable_stored {temporary : Option Path} (stored : Text × Path) :
    Session.Stable (Stored g s temporary σ₀ stored) :=
  fun σ τ ⟨htarget, bytes, hbytes, hσ⟩ hrep =>
    ⟨htarget, bytes, hbytes, fun hdir => stable_written σ τ (hσ hdir) hrep⟩

/-- A run that comes to the text of the bundle has swept its scratch directory. -/
theorem phases_swept (hpath : g.voice.host.Takes path) (hstill : g.voice.host.Still) :
    Phases g s path (Spares (σ₀.Kept (path.parts <+: ·)) path)
      (Spares (σ₀.Kept (path.parts <+: ·)) path) (Swept path σ₀) fun _ => True := by
  have hT : Session.Aloof (path.parts <+: ·) (σ₀.Kept (path.parts <+: ·)) :=
    Session.Kept.aloof fun _ => id
  have hspares := phases_spares (s := s) hT hpath (fun _ => id) hstill
  exact
    { stable_made := hspares.stable_made
      stable_cleared := stable_swept
      manifest := hspares.manifest
      reset := hspares.reset.weaken (fun _ => id) (fun _ _ => id) fun _ _ _ => trivial
      clear := by
        refine Scratch.ensures_clear hpath.clean hspares.stable_made stable_swept
          (fun _ _ _ _ _ => trivial) (fun _ _ _ _ _ _ => trivial) ?_ fun _ _ _ _ _ _ _ => trivial
        rintro σ r hσ rfl hremoved
        refine ⟨⟨hT.congr _ _ (hT.aside σ g.voice.host _ hσ.1 fun ns hns =>
          Folder.fileAt_removeTree hpath.settled hns) rfl rfl, hσ.2.marked true⟩, ?_⟩
        exact fun ns hns => Folder.fileAt_removeTree_inside hpath.settled hremoved hns
      failed_of_made := fun _ _ => trivial
      failed_of_cleared := fun _ _ => trivial }

/-- Storing the bundle then writes it. -/
theorem stored_store (hs : s.Located g.voice.host) {temporary : Option Path} (source : Text) :
    (g.store s source).Ensures (Swept path σ₀)
      (fun target => Stored g s temporary σ₀ (source, target)) fun _ _ => True := by
  have hT : Session.Aloof (path.parts <+: ·) (σ₀.Kept (path.parts <+: ·)) :=
    Session.Kept.aloof fun _ => id
  refine Action.Ensures.weaken (ensures_store (K := fun target σ =>
    s.outputPath g.voice.host = .ok target ∧ (∀ ns, σ.Logs ns ↔ σ₀.Logs ns) ∧
      (¬ σ₀.Logs target.parts →
        Written σ₀ σ target ((g.voice.host.halves.encode? source).getD []))) stable_swept
    (fun target σ τ hσ hrep => ⟨hσ.1, stable_written σ τ hσ.2 hrep⟩)
    (fun σ hσ => ⟨⟨hT.congr σ σ.stopped hσ.1.1 rfl rfl, hσ.1.2⟩, hσ.2⟩) ?_ ?_)
    (fun _ => id) ?_ fun _ _ _ => trivial
  · intro target σ htarget hσ
    have hparent := (hs.outputPath htarget).settled.parent
    refine ⟨⟨hT.aside _ _ _ hσ.1.1 fun ns _ => Folder.fileAt_makeDirs hparent, hσ.1.2⟩,
      fun ns hns => ?_⟩
    exact (Folder.fileAt_makeDirs hparent).trans (hσ.2 ns hns)
  · intro target σ tree htarget hσ hwrite
    obtain ⟨_, mode, hmode, hlook⟩ := Folder.writeFile_eq_ok (hs.outputPath htarget).settled hwrite
    refine ⟨htarget, fun ns => Session.logs_withTree.trans (hσ.1.1.logs ns),
      fun hlog => ⟨mode, ?_, fun hsink => ?_⟩⟩
    · change tree.fileAt target.parts = _
      rw [Folder.fileAt, hlook, if_pos rfl]
      rfl
    · rcases hmode with ⟨_, hdata⟩ | ⟨old, hold⟩
      · rw [hdata] at hsink
        cases hsink
      -- A file that was there before the bundle is not in the scratch directory.
      · have hfile : σ.tree.fileAt target.parts = some (old, mode) := by
          rw [Folder.fileAt, hold]
          rfl
        refine ⟨old, ?_⟩
        rw [← hσ.1.1.files _ (fun hns => ?_) hlog, hfile, hsink]
        rw [hσ.2 _ hns] at hfile
        cases hfile
  · rintro target σ ⟨⟨htarget, hlogs, hwritten⟩, hsome⟩
    obtain ⟨bytes, hbytes⟩ := Option.isSome_iff_exists.1 hsome
    rw [hbytes] at hwritten
    exact ⟨htarget, bytes, hbytes, fun _ => ⟨hlogs, hwritten⟩⟩

/-- So all steps of a run that has its directories come to a bundle that was stored, if they come to
an end. -/
theorem stored_steps (hpath : g.voice.host.Takes path) (hstill : g.voice.host.Still)
    (hs : s.Located g.voice.host) (hcompiler : g.compiler.Confined) {temporary : Option Path} :
    (g.steps s path).Ensures (σ₀.Kept (path.parts <+: ·)) (Stored g s temporary σ₀)
      fun _ _ => True := by
  have hkept : Session.Aloof (path.parts <+: ·) (σ₀.Kept (path.parts <+: ·)) :=
    Session.Kept.aloof fun _ => id
  have hbundled := (phases_swept (s := s) hpath hstill).bundled (P := σ₀.Kept (path.parts <+: ·))
    (fun τ hτ => ⟨hkept.congr τ { τ with scratch := _ } hτ rfl rfl, fun d hd => by cases hd; rfl⟩)
    fun _ options dir _ _ _ => spares_launched hkept hpath.settled (fun _ => id) hcompiler options dir
  exact ensures_steps hbundled (stored_store hs) fun _ _ => id

/-- Removing the temporary directory does not undo that, since the bundle is not in it. -/
theorem stored_removeTemporary (hfree : g.voice.host.Boundless) {temporary : Option Path}
    (hdir : ∀ dir, temporary = some dir → dir.Settled) (stored : Text × Path) :
    (g.removeTemporary temporary).Ensures (Stored g s temporary σ₀ stored)
      (fun _ => Stored g s temporary σ₀ stored) fun _ _ => False := by
  refine ensures_removeTemporary (stable_stored stored) (fun _ _ hτ => hτ)
    (fun _ _ σ room _ _ hroom => absurd hroom (hfree.not_limited σ room)) ?_
  rintro dir htemporary τ ⟨htarget, bytes, hbytes, hτ⟩
  refine ⟨htarget, bytes, hbytes, fun hout => ?_⟩
  obtain ⟨hlogs, hwritten⟩ := hτ hout
  refine ⟨fun ns => Session.logs_withTree.trans (hlogs ns), fun hlog => ?_⟩
  obtain ⟨mode, hfile, hsink⟩ := hwritten hlog
  refine ⟨mode, ?_, hsink⟩
  exact (Folder.fileAt_removeTree (hdir dir htemporary) (hout dir htemporary)).trans hfile

end

/-! ## The area -/

section

variable {g : Generator} {s : Settings} {area path : Path}

/-- Nothing is at a path. -/
def Gone (host : Host) (p : Path) (σ : Session) : Prop := σ.tree.isThere (σ.spot host) p = false

/-- No file is in the place of the area.  If the scratch directory is only a part of the area, the
area is a directory. -/
def Roomy (area path : Path) (f : Folder) : Prop :=
  f.fileAt area.parts = none ∧ (area ≠ path → f.look area.parts = some none)

/-- The area has room for a scratch directory, and one is in use. -/
def Open (area path : Path) (σ : Session) : Prop :=
  Roomy area path σ.tree ∧ ∃ emptied, σ.scratch = some ⟨path, emptied⟩

/-- The scratch directory is gone if it is the area. -/
def Bare (host : Host) (area path : Path) (σ : Session) : Prop :=
  Open area path σ ∧ (area = path → Gone host path σ)

/-- The scratch directory has to be cleared. -/
def Filled (area path : Path) (σ : Session) : Prop :=
  Roomy area path σ.tree ∧ σ.scratch = some ⟨path, false⟩

/-- One or the other, and the mark of the scratch directory tells which. -/
def Tended (host : Host) (area path : Path) (σ : Session) : Prop :=
  Open area path σ ∧ (area = path → σ.Idle → Gone host path σ)

theorem Roomy.of_sameShape {f f' : Folder} (h : Roomy area path f) (hshape : f.SameShape f') :
    Roomy area path f' := by
  refine ⟨hshape.fileAt_eq_none h.1, fun hne => ?_⟩
  have hdir := h.2 hne
  rwa [← Folder.kindAt_eq_dir_iff, Folder.kindAt, ← hshape, ← Folder.kindAt,
    Folder.kindAt_eq_dir_iff]

theorem Roomy.makeDirs {f : Folder} {cwd : Spot} {p : Path} (hp : p.Settled)
    (h : Roomy area path f) : Roomy area path (f.makeDirs cwd p).2 := by
  refine ⟨(Folder.fileAt_makeDirs hp).trans h.1, fun hne => ?_⟩
  rcases Folder.frame_makeDirs hp area.parts not_false with hsame | ⟨-, -, hdir⟩
  · exact hsame.trans (h.2 hne)
  · exact hdir

theorem Roomy.removeTree {f : Folder} {cwd : Spot} (hpath : path.Settled) (hne : path.parts ≠ [])
    (hpart : area ≠ path → ¬ path.parts <+: area.parts) (h : Roomy area path f) :
    Roomy area path (f.removeTree cwd path).2 :=
  ⟨Folder.fileAt_removeTree_eq_none hpath hne h.1, fun hother =>
    (Folder.look_removeTree_outside hpath (hpart hother)).trans (h.2 hother)⟩

/-- A tidy compiler leaves the room that there is. -/
theorem Roomy.launched {c : Compiler} (hcompiler : c.Tidy) (hpath : path.Settled)
    (hinside : area.parts <+: path.parts) (hpart : area ≠ path → ¬ path.parts <+: area.parts)
    {options : List Text} {cwd : Path} {search : Text} {spot : Spot} {f : Folder}
    (h : Roomy area path f) : Roomy area path
      (c.launcher ⟨Compiler.baseCommand c.executable path ++ options, cwd, search⟩ spot f).2 :=
  ⟨hcompiler.fileAt_eq_none hpath hinside h.1, fun hother =>
    (hcompiler.confined path options cwd search spot f hpath area.parts (hpart hother)).trans
      (h.2 hother)⟩

theorem gone_iff {host : Host} {p : Path} {σ : Session} (hp : p.Settled) :
    Gone host p σ ↔ (p.Usable → σ.tree.look p.parts = none) := by
  rw [Gone, Bool.eq_false_iff, Ne, Folder.isThere_iff hp]
  constructor
  · intro h husable
    exact Classical.byContradiction fun hlook => h ⟨husable, hlook⟩
  · rintro h ⟨husable, hlook⟩
    exact hlook (h husable)

theorem stable_gone {host : Host} {p : Path} (hp : p.Settled) : Session.Stable (Gone host p) := by
  intro σ τ hσ hrep
  rw [gone_iff hp] at hσ ⊢
  intro husable
  rw [← Folder.kindAt_eq_none_iff, Folder.kindAt, ← hrep.shape, ← Folder.kindAt,
    Folder.kindAt_eq_none_iff]
  exact hσ husable

theorem stable_open : Session.Stable (Open area path) := fun _ _ hσ hrep =>
  ⟨hσ.1.of_sameShape hrep.shape, hrep.scratch ▸ hσ.2⟩

theorem stable_bare {host : Host} (hpath : path.Settled) :
    Session.Stable (Bare host area path) := fun σ τ hσ hrep =>
  ⟨stable_open σ τ hσ.1 hrep, fun h => stable_gone hpath σ τ (hσ.2 h) hrep⟩

theorem stable_filled : Session.Stable (Filled area path) := fun _ _ hσ hrep =>
  ⟨hσ.1.of_sameShape hrep.shape, hrep.scratch.trans hσ.2⟩

theorem stable_tended {host : Host} (hpath : path.Settled) :
    Session.Stable (Tended host area path) := by
  intro σ τ hσ hrep
  refine ⟨stable_open σ τ hσ.1 hrep, fun h hidle => stable_gone hpath σ τ (hσ.2 h ?_) hrep⟩
  rwa [Session.Idle, ← hrep.scratch]

theorem Bare.tended {host : Host} {σ : Session} (h : Bare host area path σ) :
    Tended host area path σ :=
  ⟨h.1, fun harea _ => h.2 harea⟩

theorem Filled.tended {host : Host} {σ : Session} (h : Filled area path σ) :
    Tended host area path σ :=
  ⟨⟨h.1, false, h.2⟩, fun _ hidle => nomatch hidle _ h.2⟩

theorem Open.marked {σ : Session} (h : Open area path σ) (emptied : Bool) :
    Open area path (Scratch.marked emptied σ) := by
  obtain ⟨hroomy, _, hscratch⟩ := h
  exact ⟨hroomy, emptied, by rw [Scratch.marked, hscratch]; rfl⟩

/-- Clearing the scratch directory bares the area, even where it is reported as a failure. -/
theorem bare_clear (hfree : g.voice.host.Boundless) (hpath : g.voice.host.Takes path)
    (hne : path.parts ≠ []) (hpart : area ≠ path → ¬ path.parts <+: area.parts) :
    (Scratch.clear g.voice path).Ensures (Open area path) (fun _ => Bare g.voice.host area path)
      fun _ => Bare g.voice.host area path := by
  have hremove {σ : Session} (hσ : Open area path σ) : Bare g.voice.host area path
      (σ.withTree g.voice.host (σ.tree.removeTree (σ.spot g.voice.host) path).2) := by
    refine ⟨⟨hσ.1.removeTree hpath.settled hne hpart, hσ.2⟩, ?_⟩
    rintro rfl
    exact Folder.isThere_removeTree hpath.settled hne hσ.1.1 _
  refine Scratch.ensures_clear hpath.clean stable_open (stable_bare hpath.settled)
    (fun _ => stable_bare hpath.settled)
    (fun σ room _ _ hroom => absurd hroom (hfree.not_limited σ room)) ?_ ?_
  · rintro σ r hσ rfl -
    exact ⟨(hremove hσ).1.marked true, (hremove hσ).2⟩
  · rintro σ r e hσ rfl - -
    exact hremove hσ

theorem filled_reset (hfree : g.voice.host.Boundless) (hpath : g.voice.host.Takes path)
    (hne : path.parts ≠ []) (hpart : area ≠ path → ¬ path.parts <+: area.parts)
    (hstill : g.voice.host.Still) :
    (Scratch.reset g.voice {} path).Ensures (Open area path) (fun _ => Filled area path)
      fun _ => Bare g.voice.host area path := by
  refine .bind (.say stable_open _ _ _) fun _ => .bind (bare_clear hfree hpath hne hpart) fun _ =>
    Scratch.ensures_make hpath.clean (stable_bare hpath.settled) stable_filled (fun _ hσ => hσ)
      ?_ ?_ ?_ _
  · rintro σ r ⟨⟨hroomy, _, hscratch⟩, -⟩ rfl -
    exact ⟨hroomy.makeDirs hpath.settled,
      by rw [Scratch.marked, Session.withTree, hscratch]; rfl⟩
  · rintro σ r ⟨hopen, -⟩ rfl hrefused
    refine ⟨⟨hopen.1.makeDirs hpath.settled, hopen.2⟩, ?_⟩
    rintro rfl
    exact Folder.isThere_makeDirs hpath.settled hopen.1.1 hrefused _
  · refine Scratch.ensures_wait hstill fun σ k hσ => ⟨hσ.1, fun harea => ?_⟩
    have hgone := (gone_iff hpath.settled).1 (hσ.2 harea)
    exact (gone_iff hpath.settled).2 hgone

/-- The steps of a run leave no scratch directory that is not marked. -/
theorem phases_tended (hfree : g.voice.host.Boundless) (hpath : g.voice.host.Takes path)
    (hne : path.parts ≠ []) (hpart : area ≠ path → ¬ path.parts <+: area.parts)
    (hstill : g.voice.host.Still) :
    Phases g s path (Open area path) (Filled area path) (Bare g.voice.host area path)
      (Tended g.voice.host area path) where
  stable_made := stable_filled
  stable_cleared := stable_bare hpath.settled
  manifest := keeps_manifest stable_filled fun _ _ hσ => hσ
  reset := (filled_reset hfree hpath hne hpart hstill).weaken (fun _ => id) (fun _ _ => id)
    fun _ _ => Bare.tended
  clear := (bare_clear hfree hpath hne hpart).weaken (fun _ hσ => ⟨hσ.1, false, hσ.2⟩) (fun _ _ => id)
    fun _ _ => Bare.tended
  failed_of_made := fun _ => Filled.tended
  failed_of_cleared := fun _ => Bare.tended

/-- Storing the bundle puts nothing back into the area, if that is the scratch directory and the
bundle belongs elsewhere.  A larger area is a directory, and so the bundle is not stored in its
place. -/
theorem bare_store (hs : s.Located g.voice.host) (hpath : path.Settled)
    (hout : area = path → ∀ target, s.outputPath g.voice.host = .ok target →
      ¬ path.parts <+: target.parts)
    (source : Text) : (g.store s source).Keeps (Bare g.voice.host area path) := by
  refine Action.Ensures.weaken (ensures_store (K := fun _ => Bare g.voice.host area path)
    (stable_bare hpath) (fun _ => stable_bare hpath) (fun _ hσ => hσ) ?_ ?_) (fun _ => id)
    (fun _ _ h => h.1) fun _ _ h => h.elim id fun ⟨_, _, _, hσ⟩ => hσ
  · intro target σ htarget hσ
    have hparent := (hs.outputPath htarget).settled.parent
    refine ⟨⟨hσ.1.1.makeDirs hparent, hσ.1.2⟩, ?_⟩
    rintro rfl
    have hgone := (gone_iff hpath).1 (hσ.2 rfl)
    refine (gone_iff hpath).2 fun husable => ?_
    -- The directories made for the bundle are not at or below the scratch directory.
    rcases Folder.frame_makeDirs hparent area.parts not_false with hsame | ⟨hinside, -⟩
    · exact hsame.trans (hgone husable)
    · exact absurd (hinside.trans (List.dropLast_prefix _)) (hout rfl target htarget)
  · intro target σ tree htarget hσ hwrite
    obtain ⟨_, mode, hmode, hlook⟩ := Folder.writeFile_eq_ok (hs.outputPath htarget).settled hwrite
    have hother : area.parts ≠ target.parts := by
      intro hsame
      by_cases harea : area = path
      · exact hout harea target htarget (harea ▸ hsame ▸ List.prefix_rfl)
      · have hdir := hσ.1.1.2 harea
        rw [hsame] at hdir
        rcases hmode with ⟨hnone, -⟩ | ⟨old, hold⟩
        · cases hnone.symm.trans hdir
        · cases hold.symm.trans hdir
    have hsame : tree.look area.parts = σ.tree.look area.parts := by rw [hlook, if_neg hother]
    refine ⟨⟨⟨?_, fun harea => hsame.trans (hσ.1.1.2 harea)⟩, hσ.1.2⟩, ?_⟩
    · change tree.fileAt area.parts = none
      rw [Folder.fileAt, hsame]
      exact hσ.1.1.1
    · rintro rfl
      have hgone := (gone_iff hpath).1 (hσ.2 rfl)
      exact (gone_iff hpath).2 fun husable => hsame.trans (hgone husable)

/-- What removing the temporary directory leaves of the area. -/
theorem gone_removeTemporary (hfree : g.voice.host.Boundless) {temporary : Option Path}
    (harea : area.Settled) (hne : area.parts ≠ []) (hpath : path.Settled)
    (hnone : temporary = none → area = path) (hsome : ∀ dir, temporary = some dir → area = dir) :
    (g.removeTemporary temporary).Ensures (Bare g.voice.host area path)
      (fun _ => Gone g.voice.host area) fun _ _ => False := by
  refine ensures_removeTemporary (stable_bare hpath) (fun h σ hσ => ?_)
    (fun _ _ σ room _ _ hroom => absurd hroom (hfree.not_limited σ room)) fun dir h σ hσ => ?_
  · rw [hnone h]
    exact hσ.2 (hnone h)
  · obtain rfl := hsome dir h
    exact Folder.isThere_removeTree harea hne hσ.1.1.1 _

/-- A run that gives up leaves nothing of its area. -/
theorem gone_giveUp (hfree : g.voice.host.Boundless) {temporary : Option Path} {f : Fault}
    (hlevel : ∃ level, Settings.levelOf s.logLevel = .ok level) (hpath : g.voice.host.Takes path)
    (hpathne : path.parts ≠ []) (hpart : area ≠ path → ¬ path.parts <+: area.parts)
    (harea : area.Settled) (hne : area.parts ≠ []) (hnone : temporary = none → area = path)
    (hsome : ∀ dir, temporary = some dir → area = dir) :
    (g.giveUp s temporary f).Ensures (Tended g.voice.host area path)
      (fun _ => Gone g.voice.host area) fun _ => Gone g.voice.host area := by
  refine Action.Ensures.weaken (ensures_giveUp (stable_tended hpath.settled) (stable_gone harea)
    (Or.inl hlevel) (ensures_cleanUp (stable_bare hpath.settled)
      (fun σ hσ hidle => ⟨hσ.1, fun h => hσ.2 h hidle⟩) fun d hd => ?_)
    (gone_removeTemporary hfree harea hne hpath.settled hnone hsome))
    (fun _ => id) (fun _ _ h => h.2) fun _ _ h => h.elim False.elim And.right
  rintro σ ⟨⟨⟨hroomy, emptied, hscratch⟩, -⟩, hd'⟩
  rw [hscratch] at hd'
  cases hd'
  exact bare_clear hfree hpath hpathne hpart σ ⟨hroomy, emptied, hscratch⟩

end

/-! ## Runs -/

section

variable {g : Generator} {s : Settings} {σ : Session} {k : Nat}

/-- What became of a run, given what became of its attempt. -/
def ending (g : Generator) : Except Fault (Text × Path) → Except Fault (Option Path)
  | .ok stored => .ok (some stored.2)
  | .error f => if g.throws then .error f else .ok none

theorem giveUp_result (hfree : g.voice.host.Boundless)
    (hlevel : ∃ level, Settings.levelOf s.logLevel = .ok level)
    (temporary : Option Path) (f : Fault) :
    (g.giveUp s temporary f).Ensures (fun _ => True) (fun r _ => r = none ∧ g.throws = false)
      fun f' _ => f' = f ∧ g.throws = true := by
  have hstable : Session.Stable fun _ => True := fun _ _ _ _ => trivial
  refine Action.Ensures.weaken (ensures_giveUp (R := fun _ _ => False) hstable hstable
    (Or.inl hlevel) (ensures_cleanUp hstable (fun _ _ _ => trivial) fun d _ => ?_)
    (ensures_removeTemporary hstable (fun _ _ _ => trivial)
      (fun _ _ σ room _ _ hroom => absurd hroom (hfree.not_limited σ room)) fun _ _ _ _ => trivial))
    (fun _ => id) (fun _ _ h => h.1) fun _ _ h => h.elim False.elim fun h => h.1 hlevel
  intro σ _
  split <;> trivial

/-- A run ends as its attempt does, and if that gives a bundle, it was written. -/
theorem generate_follows (hfree : g.voice.host.Boundless) (hk : k = σ.temporaries + 1)
    (htemp : g.voice.host.Takes g.voice.host.temporary) (hstill : g.voice.host.Still)
    (hs : s.Located g.voice.host) (hcompiler : g.compiler.Confined)
    (hlevel : ∃ level, Settings.levelOf s.logLevel = .ok level) :
    ((g.generate s).outcome σ).1 = g.ending ((g.attempt s).outcome σ).1 ∧
      ∀ text target, ((g.attempt s).outcome σ).1 = .ok (text, target) →
        s.outputPath g.voice.host = .ok target ∧
        ∃ bytes, g.voice.host.halves.encode? text = some bytes ∧
          ((∀ dir, s.temporary? g.voice.host k = some dir → ¬ dir.parts <+: target.parts) →
            ¬ σ.Logs target.parts → Written σ ((g.generate s).outcome σ).2 target bytes) := by
  subst hk
  have hkept : Session.Aloof ((s.scratch g.voice.host (σ.temporaries + 1)).parts <+: ·)
      (σ.Kept ((s.scratch g.voice.host (σ.temporaries + 1)).parts <+: ·)) :=
    Session.Kept.aloof fun _ => id
  have hlocate := ensures_locate (g := g) (n := σ.temporaries) hs hkept.stable (fun _ _ => id)
    (fun τ hτ _ => hkept.congr _ _ (hkept.aside τ g.voice.host _ hτ fun ns _ =>
      Folder.fileAt_makeDirs (Host.takes_temporaryAt htemp _).settled) rfl rfl)
    (F := fun _ => True) fun _ _ _ => trivial
  have hsteps : (g.steps s (s.scratch g.voice.host (σ.temporaries + 1))).Ensures
      (σ.Kept ((s.scratch g.voice.host (σ.temporaries + 1)).parts <+: ·))
      (Stored g s (s.temporary? g.voice.host (σ.temporaries + 1)) σ) fun _ _ => True :=
    stored_steps (hs.scratch htemp _) hstill hs hcompiler
  have hremove (stored : Text × Path) :
      (g.removeTemporary (s.temporary? g.voice.host (σ.temporaries + 1))).Ensures
        (Stored g s (s.temporary? g.voice.host (σ.temporaries + 1)) σ stored)
        (fun _ => Stored g s (s.temporary? g.voice.host (σ.temporaries + 1)) σ stored)
        fun _ _ => False :=
    stored_removeTemporary hfree (fun dir h =>
      Settings.area_eq_of_temporary? h ▸ (hs.area htemp (σ.temporaries + 1)).settled) stored
  have hfollows := generate_follows_attempt (R := fun _ _ _ => False)
    (fun τ υ hτ hrep => ⟨hkept.stable τ υ hτ.1 hrep, hrep.temporaries.trans hτ.2⟩) stable_stored
    hlocate (hsteps.weaken (fun _ h => h.1) (fun _ _ => id) fun _ _ => id)
    (fun f => (giveUp_result hfree hlevel none f).weaken (fun _ _ => trivial) (fun _ _ => id)
      fun _ _ => id)
    (fun f => (giveUp_result hfree hlevel _ f).weaken (fun _ _ => trivial) (fun _ _ => id)
      fun _ _ => id) hremove (σ := σ) ⟨.refl _ _, rfl⟩
  rcases hattempt : (g.attempt s).outcome σ with ⟨r, τ⟩
  rcases hgenerate : (g.generate s).outcome σ with ⟨r', σ'⟩
  rw [hattempt] at hfollows
  cases r with
  | error f =>
    refine ⟨?_, fun text target h => nomatch h⟩
    cases r' with
    | ok bundle =>
      obtain ⟨rfl, hthrows⟩ := hfollows.of_ok rfl hgenerate
      simp only [ending, hthrows, Bool.false_eq_true, if_false]
    | error f' =>
      obtain ⟨rfl, hthrows⟩ := hfollows.of_error rfl hgenerate
      simp only [ending, hthrows, if_true]
  | ok stored =>
    cases r' with
    | error f' => exact (hfollows.of_error rfl hgenerate).elim
    | ok bundle =>
      obtain ⟨rfl, htarget, bytes, hbytes, hstored⟩ := hfollows.of_ok rfl hgenerate
      refine ⟨rfl, fun text target h => ?_⟩
      cases h
      exact ⟨htarget, bytes, hbytes, fun hdir => (hstored hdir).2⟩

/-- A run that has found no temporary directory leaves nothing where it would have been. -/
theorem gone_giveUp_lost {area : Path} (harea : area.Settled)
    (hlevel : ∃ level, Settings.levelOf s.logLevel = .ok level) (f : Fault) :
    (g.giveUp s none f).Ensures (fun τ => Gone g.voice.host area τ ∧ τ.Idle)
      (fun _ => Gone g.voice.host area) fun _ => Gone g.voice.host area := by
  have hstable : Session.Stable fun τ => Gone g.voice.host area τ ∧ τ.Idle := fun τ υ hτ hrep =>
    ⟨stable_gone harea τ υ hτ.1 hrep, Session.stable_idle τ υ hτ.2 hrep⟩
  refine Action.Ensures.weaken (ensures_giveUp (R := fun _ _ => False) hstable (stable_gone harea)
    (Or.inl hlevel) (ensures_cleanUp (stable_gone harea) (fun _ hτ _ => hτ.1) ?_)
    (.pure fun _ => id)) (fun _ => id) (fun _ _ h => h.2) fun _ _ h => h.elim False.elim And.right
  rintro d hd τ ⟨⟨_, hidle⟩, hscratch⟩
  rw [hidle d hscratch] at hd
  cases hd

section

variable {area : Path} (harea : area = s.area g.voice.host (k + 1))
  (htemp : g.voice.host.Takes g.voice.host.temporary) (hs : s.Located g.voice.host)

include harea htemp hs

/-- Once the directories are located, there is room in the area.  If the temporary directory could
not be made, it is not there. -/
theorem roomy_locate :
    (g.locate s).Ensures (fun τ => (τ.tree.fileAt area.parts = none ∧
        (s.tmp = .value .null → τ.Idle)) ∧ τ.temporaries = k)
      (fun located τ => Roomy area (s.scratch g.voice.host (k + 1)) τ.tree ∧
        located.1 = s.scratch g.voice.host (k + 1) ∧ located.2 = s.temporary? g.voice.host (k + 1))
      fun _ τ => Gone g.voice.host area τ ∧ τ.Idle := by
  have hsettled : area.Settled := harea ▸ (hs.area htemp _).settled
  have hwhole : area = s.scratch g.voice.host (k + 1) ↔ s.tmp ≠ .value .null :=
    harea ▸ hs.area_eq_scratch_iff _
  have hnew (h : s.tmp = .value .null) : g.voice.host.temporaryAt (k + 1) = area := by
    rw [harea, Settings.area, h]
  have hstable : Session.Stable fun τ => τ.tree.fileAt area.parts = none ∧
      (s.tmp = .value .null → τ.Idle) := fun τ υ hτ hrep =>
    ⟨hrep.shape.fileAt_eq_none hτ.1, fun h => Session.stable_idle τ υ (hτ.2 h) hrep⟩
  refine Action.Ensures.weaken (ensures_locate hs hstable
    (J := fun τ => Roomy area (s.scratch g.voice.host (k + 1)) τ.tree)
    (F := fun τ => s.tmp = .value .null → Gone g.voice.host area τ ∧ τ.Idle)
    (fun τ h hτ => ⟨hτ.1, fun hother => absurd (hwhole.2 h) hother⟩) ?_ ?_)
    (fun _ => id) (fun _ _ => id) fun _ τ hτ => hτ.2 hτ.1
  · intro τ hτ hok
    have htaken := (Host.takes_temporaryAt htemp (k + 1)).settled
    refine ⟨(Folder.fileAt_makeDirs htaken).trans hτ.1, fun hother => ?_⟩
    rw [← hnew (Classical.byContradiction fun h => hother (hwhole.2 h))]
    exact ((Folder.isDir_iff htaken).1 ((Folder.makeDirs_eq_ok_iff htaken).1 hok)).2
  · intro τ hτ hrefused hnull
    rw [hnew hnull] at hrefused ⊢
    exact ⟨Folder.isThere_makeDirs hsettled hτ.1 hrefused _, hτ.2 hnull⟩

/-- The steps of a run that has its directories leave no scratch directory that is not marked, and
none at all if they come to an end. -/
theorem tended_steps (hfree : g.voice.host.Boundless) (hstill : g.voice.host.Still)
    (hcompiler : g.compiler.Tidy) (hne : area.parts ≠ [])
    (hout : ∀ d, s.tmp = .path d → ∀ target, s.outputPath g.voice.host = .ok target →
      ¬ d.parts <+: target.parts) :
    (g.steps s (s.scratch g.voice.host (k + 1))).Ensures
      (fun τ => Roomy area (s.scratch g.voice.host (k + 1)) τ.tree)
      (fun _ => Bare g.voice.host area (s.scratch g.voice.host (k + 1)))
      fun _ => Tended g.voice.host area (s.scratch g.voice.host (k + 1)) := by
  have hpath := hs.scratch htemp (k + 1)
  have hinside : area.parts <+: (s.scratch g.voice.host (k + 1)).parts :=
    harea ▸ s.area_prefix_scratch _ _
  have hpathne := Settings.scratch_ne_nil (harea ▸ hne)
  have hpart : area ≠ s.scratch g.voice.host (k + 1) →
      ¬ (s.scratch g.voice.host (k + 1)).parts <+: area.parts :=
    harea ▸ hs.not_scratch_prefix_area htemp
  have helsewhere (hsame : area = s.scratch g.voice.host (k + 1)) (target : Path)
      (htarget : s.outputPath g.voice.host = .ok target) :
      ¬ (s.scratch g.voice.host (k + 1)).parts <+: target.parts := by
    rcases hs.tmp with hnull | ⟨d, hd, -⟩
    · exact absurd hnull ((hs.area_eq_scratch_iff _).1 (harea ▸ hsame))
    · rw [Settings.scratch, hd]
      exact hout d hd target htarget
  have hphases : Phases g s (s.scratch g.voice.host (k + 1)) (Open area _) (Filled area _)
      (Bare g.voice.host area _) (Tended g.voice.host area _) :=
    phases_tended hfree hpath hpathne hpart hstill
  have hbundled := hphases.bundled
    (P := fun τ => Roomy area (s.scratch g.voice.host (k + 1)) τ.tree)
    (fun τ hτ => ⟨hτ, true, rfl⟩)
    fun _ options dir τ _ _ hτ => ⟨hτ.1.launched hcompiler hpath.settled hinside hpart, hτ.2⟩
  exact ensures_steps hbundled
    (fun source => (bare_store hs hpath.settled helsewhere source).weaken (fun _ => id)
      (fun _ _ => id) fun _ _ => Bare.tended) fun _ _ => id

end

/-- A run leaves nothing of its area, if no file was in its place. -/
theorem gone_generate (hfree : g.voice.host.Boundless) {area : Path}
    (harea : area = s.area g.voice.host (σ.temporaries + 1))
    (htemp : g.voice.host.Takes g.voice.host.temporary) (hstill : g.voice.host.Still)
    (hs : s.Located g.voice.host) (hcompiler : g.compiler.Tidy)
    (hlevel : ∃ level, Settings.levelOf s.logLevel = .ok level)
    (hidle : s.tmp = .value .null → σ.Idle) (hne : area.parts ≠ [])
    (hfile : σ.tree.fileAt area.parts = none)
    (hout : ∀ d, s.tmp = .path d → ∀ target, s.outputPath g.voice.host = .ok target →
      ¬ d.parts <+: target.parts) :
    (g.generate s).Ensures (· = σ) (fun _ => Gone g.voice.host area)
      fun _ => Gone g.voice.host area := by
  have hpath := hs.scratch htemp (σ.temporaries + 1)
  have hsettled : area.Settled := harea ▸ (hs.area htemp _).settled
  have hpathne := Settings.scratch_ne_nil (harea ▸ hne)
  have hpart : area ≠ s.scratch g.voice.host (σ.temporaries + 1) →
      ¬ (s.scratch g.voice.host (σ.temporaries + 1)).parts <+: area.parts :=
    harea ▸ hs.not_scratch_prefix_area htemp
  have hnone (h : s.temporary? g.voice.host (σ.temporaries + 1) = none) :
      area = s.scratch g.voice.host (σ.temporaries + 1) :=
    harea.trans (Settings.area_eq_scratch h)
  have hsome (dir : Path) (h : s.temporary? g.voice.host (σ.temporaries + 1) = some dir) :
      area = dir :=
    harea.trans (Settings.area_eq_of_temporary? h)
  have hsteps := tended_steps harea htemp hs hfree hstill hcompiler hne hout
  refine ensures_generate (fun τ υ hτ hrep => ⟨⟨hrep.shape.fileAt_eq_none hτ.1.1,
      fun h => Session.stable_idle τ υ (hτ.1.2 h) hrep⟩, hrep.temporaries.trans hτ.2⟩)
    (fun _ => stable_gone hsettled) (roomy_locate harea htemp hs)
    (hsteps.weaken (fun _ h => h.1) (fun _ _ => id) fun _ _ => id)
    (fun f => gone_giveUp_lost hsettled hlevel f)
    (fun f => gone_giveUp hfree hlevel hpath hpathne hpart hsettled hne hnone hsome)
    (fun _ => ?_) (fun _ _ => id) ⟨⟨hfile, hidle⟩, rfl⟩
  exact (gone_removeTemporary hfree hsettled hne hpath.settled hnone hsome).weaken (fun _ => id)
    (fun _ _ => id) fun _ _ => False.elim

end

/-- A run in which nothing lies too deep ends in one of two ways.  If its attempt gives a bundle, it
gives the path of the bundle, and the file there holds the text that was aggregated, unless it is an
open log file or lies in the temporary directory.  If its attempt fails, it throws the fault of the
step that failed, or gives nothing if faults are not to be thrown; a text without UTF-8 is such a
failure.

In both cases nothing is left of its area, the scratch directory of the settings or the temporary
directory, unless it is the root or a file was there before.  The bundle is supposed not to be
stored in that scratch directory. -/
theorem generate_ends {g : Generator} {s : Settings} {σ σ' : Session}
    {r : Except Fault (Option Path)} (htemp : g.voice.host.Takes g.voice.host.temporary)
    (hstill : g.voice.host.Still) (hs : s.Located g.voice.host) (hcompiler : g.compiler.Tidy)
    (hlevel : ∃ word, s.logLevel = .text word) (hidle : s.tmp = .value .null → σ.Idle)
    (hrun : (g.generate s).outcome σ = (r, σ')) (hstops : σ'.stops = σ.stops) :
    r = g.ending ((g.attempt s).outcome σ).1 ∧
    (∀ text target, ((g.attempt s).outcome σ).1 = .ok (text, target) →
      s.outputPath g.voice.host = .ok target ∧
      ∃ bytes, g.voice.host.halves.encode? text = some bytes ∧
        ((∀ dir, s.temporary? g.voice.host (σ.temporaries + 1) = some dir →
            ¬ dir.parts <+: target.parts) →
          ¬ σ.Logs target.parts → Written σ σ' target bytes)) ∧
    ((s.area g.voice.host (σ.temporaries + 1)).parts ≠ [] →
      σ.tree.fileAt (s.area g.voice.host (σ.temporaries + 1)).parts = none →
      (∀ d, s.tmp = .path d → ∀ target, s.outputPath g.voice.host = .ok target →
        ¬ d.parts <+: target.parts) →
      Gone g.voice.host (s.area g.voice.host (σ.temporaries + 1)) σ') := by
  have hword : ∃ level, Settings.levelOf s.logLevel = .ok level := by
    obtain ⟨word, hword⟩ := hlevel
    rw [hword]
    exact Settings.levelOf_text word
  -- The run is one on the host without its limits, which has the same places.
  have hfree := g.voice.host.boundless_spec
  have hrun' : (g.boundless.generate s).outcome σ = (r, σ') :=
    (g.tracks_generate s).outcome_eq hrun hstops
  have hs' : s.Located g.boundless.voice.host :=
    ⟨hs.root.imp fun _ h => ⟨h.1, h.2.settled, h.2.clean⟩,
      hs.tmp.imp id fun ⟨p, h⟩ => ⟨p, h.1, h.2.settled, h.2.clean⟩⟩
  have htemp' : g.boundless.voice.host.Takes g.boundless.voice.host.temporary :=
    ⟨htemp.settled, htemp.clean⟩
  have hcompiler' : g.boundless.compiler.Tidy := ⟨hcompiler.confined, hcompiler.noFile⟩
  have hfollows := generate_follows hfree rfl htemp' hstill hs' hcompiler'.confined hword (σ := σ)
  rw [hrun', g.attempt_boundless s hrun hstops] at hfollows
  refine ⟨hfollows.1, hfollows.2, fun hne hfile hout => ?_⟩
  have hgone := gone_generate hfree rfl htemp' hstill hs' hcompiler' hword hidle hne hfile hout
  cases r with
  | ok bundle => exact hgone.of_ok rfl hrun'
  | error f => exact hgone.of_error rfl hrun'

end Generator

/-- The text of the bundle of the package. -/
def Sample.bundle : Text :=
  ("declare module 'demo/index' \x7b\n  export const a: number;\n\n\x7d\n" ++
    "declare module 'demo' \x7b\n  import main = require('demo/index');\n" ++
    "  export = main;\n\x7d").toList

namespace Generator

/-- A small package: the new bundle takes the place of the old one, and the scratch directory with
the stale file in it is gone. -/
theorem generate_ends_stored : ∃ σ,
    ((Sample.generator 0).generate (Sample.settings (.path Sample.scratch))).outcome
      { tree := Sample.tree } = (.ok (some ⟨.root, ["pkg".toList, "index.d.ts".toList]⟩), σ) ∧
    Written { tree := Sample.tree } σ ⟨.root, ["pkg".toList, "index.d.ts".toList]⟩
      (Utf8.encode Sample.bundle) ∧
    Gone Sample.host Sample.scratch σ := by
  have hattempt : (((Sample.generator 0).attempt (Sample.settings (.path Sample.scratch))).outcome
      { tree := Sample.tree }).1.toOption =
      some (Sample.bundle, ⟨.root, ["pkg".toList, "index.d.ts".toList]⟩) := by
    decide +kernel
  have hstops : (((Sample.generator 0).generate (Sample.settings (.path Sample.scratch))).outcome
      { tree := Sample.tree }).2.stops = 0 := by
    decide +kernel
  have hbytes : Halves.spare.encode? Sample.bundle = some (Utf8.encode Sample.bundle) := by
    decide +kernel
  rcases hrun : ((Sample.generator 0).generate (Sample.settings (.path Sample.scratch))).outcome
    { tree := Sample.tree } with ⟨r, σ⟩
  rw [hrun] at hstops
  obtain ⟨hends, hstored, hgone⟩ := generate_ends (g := Sample.generator 0) Sample.takes_temporary
    (fun _ _ => rfl) Sample.located_settings (Compiler.tidy_writing _ _ _) ⟨_, rfl⟩
    (fun h => nomatch h) hrun hstops
  cases hresult : (((Sample.generator 0).attempt (Sample.settings (.path Sample.scratch))).outcome
      { tree := Sample.tree }).1 with
  | error f =>
    rw [hresult] at hattempt
    cases hattempt
  | ok stored =>
    rw [hresult] at hattempt hends hstored
    obtain rfl := Option.some.inj hattempt
    obtain ⟨-, bytes, hsome, hwritten⟩ := hstored _ _ rfl
    obtain rfl := Option.some.inj (hbytes.symm.trans hsome)
    refine ⟨σ, by rw [hends]; rfl, hwritten (fun dir h => nomatch h) (fun h => nomatch h),
      hgone (by decide) (by decide) fun d hd target htarget => ?_⟩
    cases hd
    cases Except.ok.inj htarget
    decide

end Generator

/-- The package, with a device in the place of its bundle. -/
def Sample.swallowing : Folder :=
  .dir "pkg".toList
    (.file "package.json".toList (Utf8.encode "\x7b\"name\": \"demo\"\x7d".toList) .data
      (.file "index.d.ts".toList [] .sink .nil)) .nil

/-- The settings of the package without a scratch directory, and with its bundle in the first
temporary directory. -/
def Sample.withinTemporary : Settings :=
  { settings (.value .null) with output := .text "/tmp/dtsbundle-1/index.d.ts".toList }

namespace Generator

/-- The file of the bundle need not hold the text that was aggregated.  If it is the log file as
well, there is a line of the journal behind that text; if it is a device, it keeps nothing; and if
it lies in the temporary directory of the run, it goes with that. -/
theorem bundle_not_kept :
    ((((Sample.generator 0).attempt (Sample.settings (.path Sample.scratch))).outcome
      { tree := Sample.tree, journal := Sample.logging "index.d.ts".toList }).1.toOption =
      some (Sample.bundle, ⟨.root, ["pkg".toList, "index.d.ts".toList]⟩) ∧
    (((Sample.generator 0).generate (Sample.settings (.path Sample.scratch))).outcome
      { tree := Sample.tree, journal := Sample.logging "index.d.ts".toList }).1.toOption =
      some (some ⟨.root, ["pkg".toList, "index.d.ts".toList]⟩) ∧
    (((Sample.generator 0).generate (Sample.settings (.path Sample.scratch))).outcome
      { tree := Sample.tree, journal := Sample.logging "index.d.ts".toList }).2.tree.fileAt
        ["pkg".toList, "index.d.ts".toList] =
      some (Utf8.encode (Sample.bundle ++
        " INFO dtsbundle.generator: Generation is completed!\n".toList), .data)) ∧
    ((((Sample.generator 0).generate (Sample.settings (.path Sample.scratch))).outcome
      { tree := Sample.swallowing }).1.toOption =
      some (some ⟨.root, ["pkg".toList, "index.d.ts".toList]⟩) ∧
    (((Sample.generator 0).generate (Sample.settings (.path Sample.scratch))).outcome
      { tree := Sample.swallowing }).2.tree.fileAt ["pkg".toList, "index.d.ts".toList] =
      some ([], .sink)) ∧
    (((Sample.generator 0).generate Sample.withinTemporary).outcome
      { tree := Sample.tree }).1.toOption =
      some (some ⟨.root, ["tmp".toList, "dtsbundle-1".toList, "index.d.ts".toList]⟩) ∧
    (((Sample.generator 0).generate Sample.withinTemporary).outcome
      { tree := Sample.tree }).2.tree.fileAt
        ["tmp".toList, "dtsbundle-1".toList, "index.d.ts".toList] = none := by
  decide +kernel

end Generator
end AmbientBundle
