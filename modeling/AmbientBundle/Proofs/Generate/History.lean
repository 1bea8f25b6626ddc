import AmbientBundle.Proofs.Generate.Limits
import AmbientBundle.Proofs.Generate.Temporary

/-!
# Runs do not depend on what was before

Take two runs with the same settings whose trees agree except for what belongs to the runs alone:
the scratch directory of the settings, or the temporary directories if there is none.  Whatever is
left in there, and however often either generator was used before, the runs have the same result
and leave the same tree (`generate_independent`), provided that the two launches they come to
write the same and that nothing lies too deep.  With force the launches may end in any way that is
known to the runs.  What has no UTF-8 in what a compiler writes is not, and stops a run with force
as well as one without (`unheard_stops`).

If the settings have a scratch directory, each place corresponds to itself.  Otherwise each run
works in a new temporary directory of its own, and what is below one of them corresponds to what is
below the other (`Host.Counterpart`).
-/

namespace AmbientBundle

/-- Which places correspond to each other for two runs with the same settings, given the numbers of
their temporary directories. -/
def Settings.Counterpart (s : Settings) (host : Host) (k k' : Nat) : List Text → List Text → Prop :=
  match s.tmp with
  | .path _ => Eq
  | .value _ => host.Counterpart k k'

/-! ## Where two runs start -/

/-- Sessions in which two runs start alike, with a scratch directory in their settings. -/
structure Session.StartIn (s : Settings) (host : Host) (D : Path) (σ σ' : Session) : Prop where
  /-- That is the scratch directory. -/
  tmp : s.tmp = .path D
  /-- It is not the root. -/
  ne : D.parts ≠ []
  /-- It does not hold the package. -/
  root : ∀ root, s.root = .path root → ¬ D.parts <+: root.parts
  /-- It is a directory or missing in one session. -/
  vacant : σ.Vacant host D
  /-- And in the other. -/
  vacant' : σ'.Vacant host D
  /-- All else is the same in both. -/
  trees : ∀ ns, ¬ D.parts <+: ns → σ.tree.look ns = σ'.tree.look ns
  /-- The working directory has gone in both or in neither, if it is elsewhere. -/
  lost : ¬ D.parts <+: host.cwd.parts → (σ.lost = 0 ↔ σ'.lost = 0)

/-- Sessions in which two runs start alike, with no scratch directory in their settings.  Nothing
that they are told of is in a temporary directory, since these are new. -/
structure Session.StartAnew (s : Settings) (host : Host) (σ σ' : Session) : Prop where
  /-- There is none in the settings. -/
  tmp : s.tmp = .value .null
  /-- The next temporary directory is new in one session. -/
  new : σ.tree.look (host.temporaryAt (σ.temporaries + 1)).parts = none
  /-- And in the other. -/
  new' : σ'.tree.look (host.temporaryAt (σ'.temporaries + 1)).parts = none
  /-- Their names are equally usable. -/
  limits : SameLimits (host.temporaryAt (σ.temporaries + 1)).parts
    (host.temporaryAt (σ'.temporaries + 1)).parts
  /-- So are those of the scratch directories. -/
  limits' : SameLimits (s.scratch host (σ.temporaries + 1)).parts
    (s.scratch host (σ'.temporaries + 1)).parts
  /-- The working directory is elsewhere. -/
  cwd : ¬ host.Temporary host.cwd.parts
  /-- So is the package. -/
  root : ∀ root, s.root = .path root → ¬ host.Temporary root.parts
  /-- So is the bundle. -/
  output : ∀ target, s.outputPath host = .ok target → ¬ host.Temporary target.parts
  /-- So are the log files. -/
  logs : ∀ ns, σ.Writes ns ∨ σ'.Writes ns → ¬ host.Temporary ns
  /-- All else is the same in both. -/
  trees : ∀ ns, ¬ host.Temporary ns → σ.tree.look ns = σ'.tree.look ns
  /-- The working directory has gone in both or in neither. -/
  lost : σ.lost = 0 ↔ σ'.lost = 0

namespace Generator

open Session (Twins Near SameMark Recalls Seasoned Parted)

/-- Sessions of a generator that is new, or that has made any number of runs while the file in its
package was a given one.  Between two runs anything else may have changed. -/
inductive Used (g : Generator) (s : Settings) (file : Option (Bytes × FileMode)) : Session → Prop
  /-- Nothing is remembered. -/
  | fresh {σ : Session} : σ.scratch = none → σ.manifest = none → Used g s file σ
  /-- What is remembered comes from a run that was made with the file in place. -/
  | again {σ τ υ : Session} {c : Compiler} {r : Except Fault (Option Path)} : Used g s file σ →
      σ.tree.fileAt s.packageFile.parts = file → ¬ σ.Writes s.packageFile.parts →
      Leaves { g with compiler := c } s file σ →
      (Generator.generate { g with compiler := c } s).outcome σ = (r, τ) →
      υ.scratch = τ.scratch → υ.manifest = τ.manifest → Used g s file υ

variable {g : Generator} {s : Settings} {file : Option (Bytes × FileMode)} {σ σ' : Session}

/-- A generator that has been used remembers nothing that is wrong. -/
theorem Used.seasoned (hs : s.Located g.voice.host)
    (htemp : g.voice.host.Takes g.voice.host.temporary) (hstill : g.voice.host.Still)
    (hclears : ∀ k, Clears s file (s.scratch g.voice.host k)) (h : Used g s file σ) :
    σ.Seasoned s g.voice.host file := by
  induction h with
  | fresh hscratch hmanifest =>
    refine ⟨fun m hm => ?_, fun d hd => ?_⟩
    · rw [hmanifest] at hm
      cases hm
    · rw [hscratch] at hd
      cases hd
  | @again σ τ υ c r _ hfile hlog hleaves hrun hscratch hmanifest ih =>
    have hafter : Seasoned s g.voice.host file τ := by
      have hgenerate := seasoned_generate (g := { g with compiler := c }) hs htemp hstill
        ⟨hfile, hlog, ih⟩ (hclears _) hleaves
      cases r with
      | ok bundle => exact hgenerate.of_ok rfl hrun
      | error f => exact hgenerate.of_error rfl hrun
    exact ⟨fun m hm => hafter.manifest m (hmanifest ▸ hm), fun d hd => hafter.scratch d (hscratch ▸ hd)⟩

/-- Places where two runs that start in these sessions need not agree at their end: those in
temporary directories and those of log files. -/
def Loose (host : Host) (σ σ' : Session) (ns : List Text) : Prop :=
  host.Temporary ns ∨ σ.Writes ns ∨ σ'.Writes ns

/-- Two runs with the same settings, of generators that differ in their compilers and in what they
did before. -/
structure Comparable (g : Generator) (s : Settings) (c c' : Compiler) (σ σ' : Session) : Prop where
  /-- Temporary directories are made in a settled directory. -/
  temporary : g.voice.host.Takes g.voice.host.temporary
  /-- Nobody else is at work. -/
  still : g.voice.host.Still
  /-- The settings have paths that can be asked for. -/
  located : s.Located g.voice.host
  /-- One compiler is launched where the run is. -/
  host : c.voice.host = g.voice.host
  /-- So is the other. -/
  host' : c'.voice.host = g.voice.host
  /-- The launches that the runs come to, if they do, write the same into their scratch directories,
  if these are empty then and what the launches find elsewhere is the same. -/
  fill : ∀ l l' τ τ', (Generator.approach { g with compiler := c } s).outcome σ = (.ok l, τ) →
    (Generator.approach { g with compiler := c' } s).outcome σ' = (.ok l', τ') →
    Twins g.voice.host (s.Counterpart g.voice.host (σ.temporaries + 1) (σ'.temporaries + 1))
      σ.Writes σ'.Writes τ τ' →
    τ.Bare (s.scratch g.voice.host (σ.temporaries + 1)) →
    τ'.Bare (s.scratch g.voice.host (σ'.temporaries + 1)) →
    Compiler.FillAlike s.force.holds (s.scratch g.voice.host (σ.temporaries + 1))
      (s.scratch g.voice.host (σ'.temporaries + 1)) τ.tree τ'.tree
      (c.launcher l (τ.spot g.voice.host) τ.tree) (c'.launcher l' (τ'.spot g.voice.host) τ'.tree)
  /-- The runs start alike. -/
  start : (∃ D, σ.StartIn s g.voice.host D σ') ∨ σ.StartAnew s g.voice.host σ'
  /-- One generator is new, or was used with the same file in the package. -/
  used : Used g s (σ.tree.fileAt s.packageFile.parts) σ
  /-- So is the other. -/
  used' : Used g s (σ'.tree.fileAt s.packageFile.parts) σ'
  /-- That file is no log file. -/
  log : ¬ σ.Writes s.packageFile.parts
  /-- Of either of them. -/
  log' : ¬ σ'.Writes s.packageFile.parts

/-- A run that comes to its launch as it does without limits. -/
def Calm (g : Generator) (s : Settings) (σ : Session) : Prop :=
  (g.boundless.approach s).outcome σ = (g.approach s).outcome σ

namespace Comparable

variable {c c' : Compiler} {D : Path}

/-- Without limits the launches are the same, and so is what they write. -/
theorem fills (h : Comparable g s c c' σ σ') (hcalm : Calm { g with compiler := c } s σ)
    (hcalm' : Calm { g with compiler := c' } s σ') {P : List Text → List Text → Prop}
    {K K' : List Text → Prop} {t t' : Option Path} {τ τ' : Session}
    (hbegin : (g.boundless.begin s).outcome σ =
      (.ok (s.scratch g.voice.host (σ.temporaries + 1), t), τ))
    (hbegin' : (g.boundless.begin s).outcome σ' =
      (.ok (s.scratch g.voice.host (σ'.temporaries + 1), t'), τ'))
    (htwins : ∀ τ τ', Twins g.boundless.voice.host P K K' τ τ' → Twins g.voice.host
      (s.Counterpart g.voice.host (σ.temporaries + 1) (σ'.temporaries + 1)) σ.Writes σ'.Writes τ τ') :
    Fills g.boundless s c.boundless c'.boundless P K K' (s.scratch g.voice.host (σ.temporaries + 1))
      (s.scratch g.voice.host (σ'.temporaries + 1)) τ τ' := by
  intro l l' υ υ' hready hready' hpaired hbare hbare'
  have hrun : (approach (boundless { g with compiler := c }) s).outcome σ = (.ok l, υ) := by
    rw [approach]
    exact (Action.outcome_bind_ok hbegin).trans hready
  have hrun' : (approach (boundless { g with compiler := c' }) s).outcome σ' = (.ok l', υ') := by
    rw [approach]
    exact (Action.outcome_bind_ok hbegin').trans hready'
  exact h.fill l l' υ υ' (hcalm.symm.trans hrun) (hcalm'.symm.trans hrun') (htwins υ υ' hpaired) hbare
    hbare'

/-! ## With a scratch directory in the settings -/

/-- A scratch directory that does not hold the package does not take the place of a file in it. -/
theorem clears_of_vacant (hs : s.Located g.voice.host) (hD : D.Settled) (hne : D.parts ≠ [])
    (hroot : ∀ root, s.root = .path root → ¬ D.parts <+: root.parts)
    (hvacant : σ.Vacant g.voice.host D) : Clears s (σ.tree.fileAt s.packageFile.parts) D := by
  obtain ⟨root, hpath, -⟩ := hs.root
  have hpackage : s.packageFile.parts = root.parts ++ [Manifest.fileName] := by
    rw [Settings.packageFile, hpath]
    rfl
  by_cases hholds : D.parts <+: s.packageFile.parts
  · rw [hpackage, List.prefix_concat_iff, ← hpackage] at hholds
    have hsame := hholds.resolve_right (hroot root hpath)
    refine Or.inr ⟨hsame, hne, ?_⟩
    rw [← hsame, Folder.fileAt]
    rcases hvacant with hdir | hnone
    · rw [((Folder.isDir_iff hD).1 hdir).2]
      rfl
    · rw [hnone]
      rfl
  · exact Or.inl hholds

theorem parallel_in (h : Comparable g s c c' σ σ') (hD : g.voice.host.Takes D)
    (hstart : σ.StartIn s g.voice.host D σ') :
    Parallel g.boundless s c.boundless c'.boundless Eq (fun ns => σ.Writes ns ∧ ¬ D.parts <+: ns)
      (fun ns => σ'.Writes ns ∧ ¬ D.parts <+: ns) D D where
  mirror := .eq
  scratch := ⟨hD.settled, hD.settled, rfl⟩
  below := fun _ _ hms => hms.symm
  ne := hstart.ne
  unveiled := fun _ hns hK => hK.2 hns
  unveiled' := fun _ hns hK => hK.2 hns
  cwd := rfl
  output := fun _ _ => rfl
  package := rfl
  clear := fun hK => hK.elim (fun hK => h.log hK.1) fun hK => h.log' hK.1
  takes := hD.boundless
  takes' := hD.boundless
  still := h.still
  free := g.voice.host.boundless_spec
  located := h.located.boundless
  host := congrArg Host.boundless h.host
  host' := congrArg Host.boundless h.host'

theorem near_in {host : Host} (hstart : σ.StartIn s g.voice.host D σ')
    (hcwd : host.cwd = g.voice.host.cwd) : Near host Eq (fun ns => σ.Writes ns ∧ ¬ D.parts <+: ns)
      (fun ns => σ'.Writes ns ∧ ¬ D.parts <+: ns) D D σ σ' := by
  refine ⟨⟨.of_look ?_ _, fun hin => hstart.lost (hcwd ▸ hin.2), fun ns hns => ?_, fun ns hns => ?_⟩,
    ?_, ?_⟩
  · rintro ns ms ⟨rfl, hns⟩
    exact hstart.trees ns hns
  · exact (Classical.em (D.parts <+: ns)).symm.imp_left fun hout => ⟨hns, hout⟩
  · exact (Classical.em (D.parts <+: ns)).symm.imp_left fun hout => ⟨hns, hout⟩
  · rw [Session.Vacant, Session.spot, Host.spot, hcwd]
    exact hstart.vacant
  · rw [Session.Vacant, Session.spot, Host.spot, hcwd]
    exact hstart.vacant'

/-- Nothing is done to locate a scratch directory of the settings. -/
theorem lockstep_locate_given {R : Session → Session → Prop} (htmp : s.tmp = .path D) :
    Action.Lockstep R (g.locate s) (g.locate s)
      (fun x y τ τ' => (x = (D, none) ∧ y = (D, none)) ∧ R τ τ') fun _ _ => False := by
  rw [locate]
  simp only [htmp, Setting.toPath?, Setting.toPath, Except.map, Action.ofExcept, pure_bind]
  exact .pure fun _ _ hτ => ⟨⟨rfl, rfl⟩, hτ⟩

/-- Runs that start alike in a scratch directory of the settings. -/
theorem lockstep_in (h : Comparable g s c c' σ σ') (hcalm : Calm { g with compiler := c } s σ)
    (hcalm' : Calm { g with compiler := c' } s σ') (hstart : σ.StartIn s g.voice.host D σ') :
    Action.Lockstep (fun τ τ' => τ = σ ∧ τ' = σ')
      (Generator.generate { g.boundless with compiler := c.boundless } s)
      (Generator.generate { g.boundless with compiler := c'.boundless } s)
      (fun r r' τ τ' => r = r' ∧ Parted (Loose g.voice.host σ σ') τ τ')
      (Parted (Loose g.voice.host σ σ')) := by
  have hscratch (k : Nat) : s.scratch g.voice.host k = D := by rw [Settings.scratch, hstart.tmp]
  have hcounterpart (k k' : Nat) : s.Counterpart g.voice.host k k' = Eq := by
    rw [Settings.Counterpart, hstart.tmp]
  have hD : g.voice.host.Takes D := hscratch 0 ▸ h.located.scratch h.temporary 0
  have hclears := clears_of_vacant h.located hD.settled hstart.ne hstart.root hstart.vacant
  have hclears' := clears_of_vacant h.located hD.settled hstart.ne hstart.root hstart.vacant'
  -- The file in the package is the same, as it is elsewhere or missing.
  have hfile : σ'.tree.fileAt s.packageFile.parts = σ.tree.fileAt s.packageFile.parts := by
    rcases hclears with houtside | ⟨hsame, -, hnone⟩
    · rw [Folder.fileAt, Folder.fileAt, hstart.trees _ houtside]
    · rcases hclears' with houtside | ⟨-, -, hnone'⟩
      · exact absurd (hsame ▸ List.prefix_rfl) houtside
      · rw [hnone, hnone']
  have hseasoned := h.used.seasoned h.located h.temporary h.still fun k => (hscratch k).symm ▸ hclears
  have hseasoned' := h.used'.seasoned h.located h.temporary h.still fun k => (hscratch k).symm ▸ hclears'
  rw [hfile] at hseasoned'
  have hstable : Session.StableOn (Poised s g.boundless.voice.host Eq
      (fun ns => σ.Writes ns ∧ ¬ D.parts <+: ns) (fun ns => σ'.Writes ns ∧ ¬ D.parts <+: ns) D D
      (σ.tree.fileAt s.packageFile.parts)) :=
    (Session.stableOn_near hD.settled hD.settled).and
      (Session.stable_recalls.both Session.stable_recalls)
  have hbegin := (lockstep_begin hstable
    (lockstep_locate_given (g := g.boundless) hstart.tmp)).weaken (T := fun τ τ' => τ = σ ∧ τ' = σ')
    (fun τ τ' hτ => by
      rw [hτ.1, hτ.2]
      exact ⟨near_in hstart rfl, ⟨rfl, h.log, hseasoned.boundless⟩, hfile, h.log', hseasoned'.boundless⟩)
    (fun _ _ _ _ => id) fun _ _ => id
  refine (h.parallel_in hD hstart).lockstep_generate (fun _ _ => rfl)
    (fun ns hK => Or.inr (hK.imp And.left And.left)) hclears hclears ⟨0, (hscratch 0).symm⟩
    ⟨0, (hscratch 0).symm⟩ .none (hbegin.remember.weaken (fun _ _ => id) ?_ fun _ _ => id)
    fun _ _ _ _ _ hfalse => hfalse.elim
  rintro x y τ τ' ⟨⟨⟨rfl, rfl⟩, hpoised⟩, υ, υ', ⟨hυ, hυ'⟩, hrun, hrun'⟩
  rw [hυ] at hrun
  rw [hυ'] at hrun'
  have hfills : Fills g.boundless s c.boundless c'.boundless Eq
      (fun ns => σ.Writes ns ∧ ¬ D.parts <+: ns) (fun ns => σ'.Writes ns ∧ ¬ D.parts <+: ns)
      (s.scratch g.voice.host (σ.temporaries + 1)) (s.scratch g.voice.host (σ'.temporaries + 1))
      τ τ' := by
    refine h.fills hcalm hcalm' ((hscratch _).symm ▸ hrun) ((hscratch _).symm ▸ hrun')
      fun υ υ' hυ => ?_
    rw [hcounterpart]
    exact ⟨⟨hυ.trees.kinds, fun hns hclear => hυ.trees.looks hns fun hK =>
      hclear (hK.imp And.left And.left)⟩, hυ.lost, fun ns hns => (hυ.veiled ns hns).1,
      fun ns hns => (hυ.veiled' ns hns).1⟩
  rw [hscratch, hscratch] at hfills
  exact ⟨⟨rfl, rfl⟩, hpoised, hfills⟩

/-! ## With temporary directories -/

theorem package_not_temporary (hs : s.Located g.voice.host)
    (hroot : ∀ root, s.root = .path root → ¬ g.voice.host.Temporary root.parts) :
    ¬ g.voice.host.Temporary s.packageFile.parts := by
  obtain ⟨root, hpath, -⟩ := hs.root
  have hpackage : s.packageFile.parts = root.parts ++ [Manifest.fileName] := by
    rw [Settings.packageFile, hpath]
    rfl
  rintro ⟨k, hk⟩
  rw [hpackage, List.prefix_concat_iff] at hk
  rcases hk with hsame | hinside
  · -- No temporary directory has the name of the file.
    have hlast := congrArg List.getLast? hsame
    rw [Host.temporaryAt, Path.child, List.getLast?_concat, List.getLast?_concat] at hlast
    have hfirst : (temporaryName k).head? = some 'd' := rfl
    rw [Option.some.inj hlast] at hfirst
    exact absurd hfirst (by decide)
  · exact hroot root hpath ⟨k, hinside⟩

/-- The scratch directory is in a temporary directory. -/
theorem scratch_anew (hstart : σ.StartAnew s g.voice.host σ') {k : Nat} {ns : List Text}
    (hns : (s.scratch g.voice.host k).parts <+: ns) : g.voice.host.Temporary ns := by
  rw [Settings.scratch, hstart.tmp] at hns
  exact (Host.temporary_append k [scratchName]).mono hns

theorem facing_anew (h : Comparable g s c c' σ σ') (hstart : σ.StartAnew s g.voice.host σ') :
    (g.voice.host.temporaryAt (σ.temporaries + 1)).Facing
      (g.voice.host.Counterpart (σ.temporaries + 1) (σ'.temporaries + 1))
      (g.voice.host.temporaryAt (σ'.temporaries + 1)) := by
  refine ⟨(Host.takes_temporaryAt h.temporary _).settled, (Host.takes_temporaryAt h.temporary _).settled,
    Or.inr ⟨[], (List.append_nil _).symm, (List.append_nil _).symm, fun j => ?_⟩⟩
  rw [List.take_nil, List.append_nil, List.append_nil]
  exact hstart.limits

theorem parallel_anew (h : Comparable g s c c' σ σ') (hstart : σ.StartAnew s g.voice.host σ') :
    Parallel g.boundless s c.boundless c'.boundless
      (g.voice.host.Counterpart (σ.temporaries + 1) (σ'.temporaries + 1)) σ.Writes σ'.Writes
      (s.scratch g.voice.host (σ.temporaries + 1))
      (s.scratch g.voice.host (σ'.temporaries + 1)) := by
  have hscratch (k : Nat) : (s.scratch g.voice.host k).parts =
      (g.voice.host.temporaryAt k).parts ++ [scratchName] := by
    rw [Settings.scratch, hstart.tmp]
    rfl
  have hpackage := package_not_temporary h.located hstart.root
  exact
    { mirror := Host.mirror_counterpart
      scratch := by
        refine ⟨(h.located.scratch h.temporary _).settled, (h.located.scratch h.temporary _).settled,
          Or.inr ⟨[scratchName], hscratch _, hscratch _, fun j => ?_⟩⟩
        cases j with
        | zero =>
          rw [List.take_zero, List.append_nil, List.append_nil]
          exact hstart.limits
        | succ j =>
          rw [List.take_succ_cons, List.take_nil, ← hscratch, ← hscratch]
          exact hstart.limits'
      below := by
        intro ks ms hms
        rw [hscratch, List.append_assoc] at hms ⊢
        exact hms.below
      ne := by
        rw [hscratch]
        exact List.append_ne_nil_of_right_ne_nil _ (List.cons_ne_nil _ _)
      unveiled := fun ns hns hK => hstart.logs ns (Or.inl hK) (scratch_anew hstart hns)
      unveiled' := fun ns hns hK => hstart.logs ns (Or.inr hK) (scratch_anew hstart hns)
      cwd := Or.inl ⟨rfl, hstart.cwd⟩
      output := fun target htarget => Or.inl ⟨rfl, hstart.output target htarget⟩
      package := Or.inl ⟨rfl, hpackage⟩
      clear := fun hK => hK.elim h.log h.log'
      takes := (h.located.scratch h.temporary _).boundless
      takes' := (h.located.scratch h.temporary _).boundless
      still := h.still
      free := g.voice.host.boundless_spec
      located := h.located.boundless
      host := congrArg Host.boundless h.host
      host' := congrArg Host.boundless h.host' }

theorem twins_anew {host : Host} (hstart : σ.StartAnew s g.voice.host σ') :
    Twins host (g.voice.host.Counterpart (σ.temporaries + 1) (σ'.temporaries + 1)) σ.Writes
      σ'.Writes σ σ' := by
  refine ⟨.of_look ?_ _, fun _ => hstart.lost, fun _ => id, fun _ => id⟩
  rintro ns ms (⟨rfl, hns⟩ | ⟨rest, rfl, rfl, -⟩)
  · exact hstart.trees ns hns
  · rw [Folder.look_append_of_none hstart.new, Folder.look_append_of_none hstart.new']

/-- A place that is not in a temporary directory corresponds to itself. -/
theorem counterpart_self {host : Host} {ns : List Text} (hns : ¬ Loose host σ σ' ns) :
    host.Counterpart (σ.temporaries + 1) (σ'.temporaries + 1) ns ns :=
  Or.inl ⟨rfl, fun htemp => hns (Or.inl htemp)⟩

/-- Without temporary directories each run cleans up what it used before. -/
theorem lockstep_giveUp_lost (h : Comparable g s c c' σ σ') (hstart : σ.StartAnew s g.voice.host σ')
    {f f' : Fault} (hkind : f.kind = f'.kind) : Action.Lockstep
      (fun τ τ' => Twins g.boundless.voice.host
          (g.voice.host.Counterpart (σ.temporaries + 1) (σ'.temporaries + 1)) σ.Writes σ'.Writes τ τ' ∧
        Seasoned s g.boundless.voice.host file τ ∧ Seasoned s g.boundless.voice.host file τ')
      (g.boundless.giveUp s none f) (g.boundless.giveUp s none f')
      (fun r r' τ τ' => r = r' ∧ Parted (Loose g.voice.host σ σ') τ τ')
      (Parted (Loose g.voice.host σ σ')) := by
  have hregion (k : Nat) (ns : List Text)
      (hns : (s.scratch g.boundless.voice.host k).parts <+: ns) : Loose g.voice.host σ σ' ns :=
    Or.inl (scratch_anew hstart hns)
  refine lockstep_giveUp (S := Parted (Loose g.voice.host σ σ'))
    (Twins.stableOn.and (Session.stable_seasoned.both Session.stable_seasoned)) Parted.stableOn
    (fun τ τ' hτ => .of_twins hτ.1 (fun _ => counterpart_self) fun ns => Or.inr) ?_
    (.pure fun _ _ => id) hkind
  exact (lockstep_cleanUp_apart h.located.boundless h.temporary.boundless
    g.voice.host.boundless_spec hregion).weaken
    (fun τ τ' hτ => ⟨.of_twins hτ.1 (fun _ => counterpart_self) fun ns => Or.inr, hτ.2⟩)
    (fun _ _ _ _ => id) fun _ _ => id

/-- Runs that start alike and make temporary directories. -/
theorem lockstep_anew (h : Comparable g s c c' σ σ') (hcalm : Calm { g with compiler := c } s σ)
    (hcalm' : Calm { g with compiler := c' } s σ') (hstart : σ.StartAnew s g.voice.host σ') :
    Action.Lockstep (fun τ τ' => τ = σ ∧ τ' = σ')
      (Generator.generate { g.boundless with compiler := c.boundless } s)
      (Generator.generate { g.boundless with compiler := c'.boundless } s)
      (fun r r' τ τ' => r = r' ∧ Parted (Loose g.voice.host σ σ') τ τ')
      (Parted (Loose g.voice.host σ σ')) := by
  have hpackage := package_not_temporary h.located hstart.root
  have hparallel := h.parallel_anew hstart
  have hclears (file : Option (Bytes × FileMode)) (k : Nat) : Clears s file (s.scratch g.voice.host k) :=
    Or.inl fun hns => hpackage (scratch_anew hstart hns)
  have hfile : σ'.tree.fileAt s.packageFile.parts = σ.tree.fileAt s.packageFile.parts := by
    rw [Folder.fileAt, Folder.fileAt, hstart.trees _ hpackage]
  have hseasoned := h.used.seasoned h.located h.temporary h.still (hclears _)
  have hseasoned' := h.used'.seasoned h.located h.temporary h.still (hclears _)
  rw [hfile] at hseasoned'
  have hlocate : Action.Lockstep
      (fun τ τ' => Twins g.boundless.voice.host
          (g.voice.host.Counterpart (σ.temporaries + 1) (σ'.temporaries + 1)) σ.Writes σ'.Writes τ τ' ∧
        About s g.boundless.voice.host (σ.tree.fileAt s.packageFile.parts) σ.temporaries τ ∧
        About s g.boundless.voice.host (σ.tree.fileAt s.packageFile.parts) σ'.temporaries τ')
      (g.boundless.locate s) (g.boundless.locate s) _ _ :=
    lockstep_locate_new h.located.boundless hstart.tmp h.temporary.boundless Host.mirror_counterpart
      (h.facing_anew hstart)
  have hbegin := (lockstep_begin (Twins.stableOn.and (stable_about.both stable_about))
    hlocate).weaken (T := fun τ τ' => τ = σ ∧ τ' = σ')
    (fun τ τ' hτ => by
      rw [hτ.1, hτ.2]
      exact ⟨twins_anew hstart, ⟨⟨⟨rfl, h.log, hseasoned.boundless⟩, hstart.new⟩, rfl⟩,
        ⟨⟨hfile, h.log', hseasoned'.boundless⟩, hstart.new'⟩, rfl⟩)
    (fun _ _ _ _ => id) fun _ _ => id
  have htemporaries : Parallel.Temporaries
      (g.voice.host.Counterpart (σ.temporaries + 1) (σ'.temporaries + 1))
      (s.temporary? g.voice.host (σ.temporaries + 1))
      (s.temporary? g.voice.host (σ'.temporaries + 1)) := by
    rw [Settings.temporary?, Settings.temporary?, hstart.tmp]
    refine .some ⟨h.facing_anew hstart, ?_⟩
    exact List.append_ne_nil_of_right_ne_nil _ (List.cons_ne_nil _ _)
  refine hparallel.lockstep_generate (fun _ => counterpart_self) (fun ns => Or.inr)
    (hclears (σ.tree.fileAt s.packageFile.parts) _) (hclears _ _) ⟨_, rfl⟩ ⟨_, rfl⟩ htemporaries
    (hbegin.remember.weaken (fun _ _ => id) ?_ fun _ _ => id)
    (fun _ _ hkind => h.lockstep_giveUp_lost hstart hkind)
  rintro x y τ τ' ⟨⟨⟨rfl, rfl⟩, hpoised⟩, υ, υ', ⟨hυ, hυ'⟩, hrun, hrun'⟩
  rw [hυ] at hrun
  rw [hυ'] at hrun'
  refine ⟨⟨rfl, rfl⟩, hpoised, h.fills hcalm hcalm' hrun hrun' fun υ υ' hυ => ?_⟩
  rw [Settings.Counterpart, hstart.tmp]
  exact ⟨hυ.trees, hυ.lost, hυ.veiled, hυ.veiled'⟩

end Comparable

/-- Runs that start alike end alike, if nothing lies too deep in either: both give the same path, or
nothing, or faults of one kind, and the trees that they leave agree outside of temporary directories
and log files. -/
theorem generate_independent {g : Generator} {s : Settings} {c c' : Compiler} {σ σ' τ τ' : Session}
    {r r' : Except Fault (Option Path)} (h : Comparable g s c c' σ σ')
    (hrun : (Generator.generate { g with compiler := c } s).outcome σ = (r, τ))
    (hrun' : (Generator.generate { g with compiler := c' } s).outcome σ' = (r', τ'))
    (hstops : τ.stops = σ.stops) (hstops' : τ'.stops = σ'.stops) :
    Agree (fun f f' => f.kind = f'.kind) Eq r r' ∧
      ∀ ns, ¬ g.voice.host.Temporary ns → ¬ σ.Writes ns → ¬ σ'.Writes ns →
        τ.tree.look ns = τ'.tree.look ns := by
  have hcalm : Calm { g with compiler := c } s σ := approach_boundless _ _ hrun hstops
  have hcalm' : Calm { g with compiler := c' } s σ' := approach_boundless _ _ hrun' hstops'
  -- Without limits both runs are the same as with them.
  replace hrun :
      (Generator.generate { g.boundless with compiler := c.boundless } s).outcome σ = (r, τ) :=
    (tracks_generate { g with compiler := c } s).outcome_eq hrun hstops
  replace hrun' : (Generator.generate { g.boundless with compiler := c'.boundless } s).outcome σ' =
      (r', τ') := (tracks_generate { g with compiler := c' } s).outcome_eq hrun' hstops'
  have hlockstep : Action.Lockstep (fun τ τ' => τ = σ ∧ τ' = σ')
      (Generator.generate { g.boundless with compiler := c.boundless } s)
      (Generator.generate { g.boundless with compiler := c'.boundless } s)
      (fun r r' τ τ' => r = r' ∧ Session.Parted (Loose g.voice.host σ σ') τ τ')
      (Session.Parted (Loose g.voice.host σ σ')) := by
    rcases h.start with ⟨D, hstart⟩ | hstart
    · exact h.lockstep_in hcalm hcalm' hstart
    · exact h.lockstep_anew hcalm hcalm' hstart
  have hlooks {τ τ' : Session} (hparted : Session.Parted (Loose g.voice.host σ σ') τ τ')
      (ns : List Text) (htemp : ¬ g.voice.host.Temporary ns) (hlog : ¬ σ.Writes ns)
      (hlog' : ¬ σ'.Writes ns) : τ.tree.look ns = τ'.tree.look ns :=
    hparted.looks ns fun hloose => hloose.elim htemp fun hlogs => hlogs.elim hlog hlog'
  rcases hlockstep.cases ⟨rfl, rfl⟩ with ⟨p, q, υ, υ', hact, hact', hpq, hparted⟩ |
    ⟨f, f', υ, υ', hact, hact', hkind, hparted⟩
  · rw [hrun] at hact
    rw [hrun'] at hact'
    cases hact
    cases hact'
    exact ⟨hpq, hlooks hparted⟩
  · rw [hrun] at hact
    rw [hrun'] at hact'
    cases hact
    cases hact'
    exact ⟨hkind, hlooks hparted⟩

end Generator

/-! ## A package with a past -/

/-- Launches that write the same file into empty directories fill them alike where errors are
ignored, whatever their exit codes. -/
theorem Compiler.fillAlike_writing {code code' : Int} {content : Bytes} {D : Path} (hD : D.Settled)
    {executable executable' : Text} {options options' : List Text} {cwd cwd' : Path}
    {search search' : Text} {f f' : Folder} (hempty : f.EmptyAt D.parts)
    (hempty' : f'.EmptyAt D.parts) (spot spot' : Spot) :
    Compiler.FillAlike true D D f f'
      (Launcher.writing code content ⟨baseCommand executable D ++ options, cwd, search⟩ spot f)
      (Launcher.writing code' content ⟨baseCommand executable' D ++ options', cwd', search'⟩ spot'
        f') := by
  simp only [Launcher.writing_eq hD]
  have hnew {k : Folder} (hk : k.EmptyAt D.parts) (ns : List Text) :
      (k.put (D.parts ++ ["index.d.ts".toList]) (.file content)).look ns =
        if ns = D.parts ++ ["index.d.ts".toList] then some (some (content, .data)) else k.look ns := by
    refine Folder.look_put_leaf hk.1 ?_ (Or.inr rfl) ns
    rw [hk.2 _ (List.cons_ne_nil _ _)]
    exact Option.some_ne_none _ ∘ Eq.symm
  have haside {k : Folder} (ns : List Text) (hns : ¬ D.parts <+: ns) :
      (k.put (D.parts ++ ["index.d.ts".toList]) (.file content)).look ns = k.look ns :=
    Folder.look_put_outside _ fun h => hns ((List.prefix_append _ _).trans h)
  have hnames {k inner : Folder} (hk : k.EmptyAt D.parts)
      (hinner : (k.put (D.parts ++ ["index.d.ts".toList]) (.file content)).get? D.parts =
        some (.dir inner)) : inner.WellFormed := by
    obtain ⟨old, hold⟩ := Folder.look_eq_dir_iff.1 hk.1
    have hnil : Folder.WellFormed .nil := trivial
    rw [Folder.get?_put_dir hold, hk.eq_nil hold] at hinner
    cases hinner
    exact hnil.insert (by decide) fun g hg => nomatch hg
  refine ⟨Or.inl ⟨rfl, trivial, trivial⟩, ⟨fun ns => ?_, fun _ _ => rfl, fun _ => hnames hempty,
    fun _ => hnames hempty'⟩, ?_, haside, haside⟩
  · rw [hnew hempty, hnew hempty']
    by_cases hns : ns = []
    · rw [hns, List.append_nil, hempty.1, hempty'.1]
    · rw [hempty.2 ns hns, hempty'.2 ns hns]
  · rw [Folder.fileAt, hnew hempty, if_neg fun h => ?_, hempty.1]
    · rfl
    · exact absurd (congrArg List.length h) (by simp)

namespace Sample

/-- The settings of the package, with a scratch directory and with errors of the compiler
ignored. -/
def forced : Settings := { settings (.path scratch) with force := .bool true }

/-- What a generator goes on with after a run, if the package is put back as it was but for the
scratch directory. -/
def onward (before : Session) : Session :=
  { tree := tree.remove scratch.parts, scratch := before.scratch, manifest := before.manifest }

theorem located_forced : forced.Located host :=
  ⟨⟨_, rfl, by decide⟩, Or.inr ⟨_, rfl, by decide⟩⟩

theorem comparable_onward {r : Except Fault (Option Path)} {before : Session}
    (hbefore : ((generator 2).generate forced).outcome { tree } = (r, before)) :
    Generator.Comparable (generator 0) forced (generator 0).compiler (generator 2).compiler { tree }
      (onward before) := by
  have hD : scratch.Settled := by decide
  have htrees (ns : List Text) (hns : ¬ scratch.parts <+: ns) :
      tree.look ns = (onward before).tree.look ns := (Folder.look_remove_outside hns).symm
  exact
    { temporary := takes_temporary
      still := fun _ _ => rfl
      located := located_forced
      host := rfl
      host' := rfl
      fill := by
        intro l l' τ τ' hrun hrun' _ hbare hbare'
        obtain ⟨options, cwd, rfl⟩ := Generator.approach_writes located_forced hrun
        obtain ⟨options', cwd', rfl⟩ := Generator.approach_writes located_forced hrun'
        exact Compiler.fillAlike_writing hD hbare hbare' (τ.spot host) (τ'.spot host)
      start := by
        refine Or.inl ⟨scratch, rfl, by decide, fun root hroot => ?_, Or.inl (by decide),
          Or.inr (Folder.look_remove_self (by decide)), htrees, fun _ => Iff.rfl⟩
        cases hroot
        decide
      used := .fresh rfl rfl
      used' := .again (.fresh rfl rfl) (congrArg Option.join (htrees _ (by decide)))
        (Session.not_writes rfl _) (Generator.leaves_of_confined located_forced takes_temporary
          (Compiler.tidy_writing _ _ _).confined (by decide)) hbefore rfl rfl
      log := Session.not_writes rfl _
      log' := Session.not_writes rfl _ }

end Sample

/-- A new generator with stale declarations in its scratch directory, and one that was used before
and whose compiler ends with an error that is ignored, store the same bundle. -/
theorem Generator.generate_independent_forced : ∃ r before τ τ',
    ((Sample.generator 2).generate Sample.forced).outcome { tree := Sample.tree } = (r, before) ∧
    ((Sample.generator 0).generate Sample.forced).outcome { tree := Sample.tree } =
      (.ok (some ⟨.root, ["pkg".toList, "index.d.ts".toList]⟩), τ) ∧
    ((Sample.generator 2).generate Sample.forced).outcome (Sample.onward before) =
      (.ok (some ⟨.root, ["pkg".toList, "index.d.ts".toList]⟩), τ') ∧
    τ.tree.look ["pkg".toList, "index.d.ts".toList] =
      τ'.tree.look ["pkg".toList, "index.d.ts".toList] := by
  have hends : ((((Sample.generator 0).generate Sample.forced).outcome
      { tree := Sample.tree }).1.toOption, (((Sample.generator 0).generate Sample.forced).outcome
      { tree := Sample.tree }).2.stops) =
      (some (some ⟨.root, ["pkg".toList, "index.d.ts".toList]⟩), 0) := by decide +kernel
  have hagain (σ : Session)
      (hσ : σ = (((Sample.generator 2).generate Sample.forced).outcome { tree := Sample.tree }).2) :
      (((Sample.generator 2).generate Sample.forced).outcome (Sample.onward σ)).2.stops = 0 := by
    rw [hσ]
    decide +kernel
  rcases hbefore : ((Sample.generator 2).generate Sample.forced).outcome { tree := Sample.tree }
    with ⟨r, before⟩
  have hstops := hagain before (congrArg Prod.snd hbefore).symm
  have hcomparable := Sample.comparable_onward hbefore
  rcases hrun : ((Sample.generator 0).generate Sample.forced).outcome { tree := Sample.tree }
    with ⟨p, τ⟩
  rcases hrun' : ((Sample.generator 2).generate Sample.forced).outcome (Sample.onward before)
    with ⟨p', τ'⟩
  rw [hrun] at hends
  rw [hrun'] at hstops
  obtain ⟨hresult, hlooks⟩ := generate_independent hcomparable hrun hrun' (congrArg Prod.snd hends)
    hstops
  replace hends := congrArg Prod.fst hends
  rcases hresult.cases with ⟨p, q, rfl, rfl, rfl⟩ | ⟨f, f', rfl, rfl, -⟩
  · cases Option.some.inj hends
    refine ⟨r, before, τ, τ', rfl, rfl, hrun', hlooks _ ?_ (Session.not_writes rfl _)
      (Session.not_writes rfl _)⟩
    rintro ⟨k, hk⟩
    exact absurd (List.cons_prefix_cons.1 hk).1 (by decide)
  · cases hends

/-! ## What a compiler writes that cannot be read -/

/-- A launch whose end is not known to the run stops it, with force as well as without. -/
theorem Generator.unheard_stops {g : Generator} {s : Settings} {l : Launch} {σ τ : Session}
    {f : Fault}
    (hrun : (g.approach s).outcome σ = (.ok l, τ)) (hf : ¬ Compiler.Heard (.error f))
    (hlaunch : (g.compiler.launcher l (τ.spot g.compiler.voice.host) τ.tree).1 = .error f) :
    ((g.attempt s).outcome σ).1 = .error f := by
  have hother (cause : CompilerFault) : f ≠ .compiler cause := by
    rintro rfl
    exact hf trivial
  obtain ⟨υ, hcompile, -⟩ := g.compiler.outcome_run l τ
  have hseen := Action.outcome_observe (g.compiler.run l) τ
  rw [hcompile, hlaunch] at hseen
  rw [approach, Action.outcome_bind] at hrun
  rcases hbegin : (g.begin s).outcome σ with ⟨r, ρ⟩
  rw [hbegin] at hrun
  cases r with
  | error e => cases hrun
  | ok located =>
    have hsteps : (g.steps s located.1).outcome ρ = (.error f, υ) := by
      rw [steps, bundled_eq, bind_assoc, Action.outcome_bind_ok hrun, harvest, compile]
      simp only [bind_assoc]
      rw [Action.outcome_bind_ok hseen, Compiler.concluded, heed_error hother]
      rfl
    rw [attempt, Action.outcome_bind_ok hbegin, hsteps]

/-- A generator whose compiler writes one declaration file, and ends as given. -/
def Sample.ending (r : Except Fault Outcome) : Generator :=
  { voice := .named host "generator"
    compiler :=
      { voice := .named host "compiler"
        launcher := fun l spot f =>
          (r, (Launcher.writing 2 (Utf8.encode "export declare const a: number;\n".toList) l spot
            f).2) } }

/-- With force two compilers may write the same files and end with the same code, and their runs
differ: one of them also writes what is no text. -/
theorem Generator.garbled_output_matters :
    (((Sample.ending (.ok ⟨2, ['x']⟩)).generate Sample.forced).outcome
      { tree := Sample.tree }).1.toOption =
        some (some ⟨.root, ["pkg".toList, "index.d.ts".toList]⟩) ∧
    (((Sample.ending (.error .undecodable)).generate Sample.forced).outcome
      { tree := Sample.tree }).1.toOption = some none := by
  decide +kernel

end AmbientBundle
