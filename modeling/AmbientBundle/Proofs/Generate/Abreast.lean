import AmbientBundle.Proofs.Generate.Recall
import AmbientBundle.Proofs.Generate.Twins
import AmbientBundle.Proofs.Loading

/-!
# Two runs of one generator

Two runs with the same settings go side by side, each with its own compiler and in its own scratch
directory.  `Parallel` lists what they have in common: corresponding places, a package file that
is not veiled, and a host without limits.  Each step then takes twins to twins and has the same
result on both sides, or fails on both sides with faults of one kind.

Of the compilers nothing is asked but what they do in the two launches that the runs come to, if
they come to any (`Generator.Fills`): what they leave in the scratch directories, which are empty
then, is the same, they change nothing else, and what the runs make of their ends is the same.
-/

namespace AmbientBundle

/-! ## Compilers that write the same -/

namespace Compiler

/-- What the end of a launch amounts to: a bad exit code is a fault. -/
def concluded : Except Fault Outcome → Except Fault Outcome
  | .ok o => if o.success then .ok o else .error (.compiler (.exited o.code o.output))
  | .error f => .error f

/-- What a run makes of that.  With force it does not stop for faults of the compiler. -/
def heeded (force : Bool) : Except Fault Outcome → Except Fault Unit
  | .ok _ => .ok ()
  | .error (.compiler cause) => if force then .ok () else .error (.compiler cause)
  | .error f => .error f

/-- Whether the end of a launch is known to the run: the program ended, and what it wrote can be
read, or there was no such program. -/
def Heard : Except Fault Outcome → Prop
  | .ok _ => True
  | .error (.compiler _) => True
  | .error _ => False

/-- Ends of two launches that make no difference: with force any two that are known, and otherwise
two that are both good, or bad for reasons of one kind. -/
def EndAlike (force : Bool) (r r' : Except Fault Outcome) : Prop :=
  (force = true ∧ Heard r ∧ Heard r') ∨
    Agree (fun f f' => f.kind = f'.kind) (fun _ _ => True) (concluded r) (concluded r')

theorem heeded_concluded {r : Except Fault Outcome} (h : Heard r) :
    heeded true (concluded r) = .ok () := by
  cases r with
  | ok o =>
    rw [concluded]
    split <;> rfl
  | error f =>
    cases f with
    | compiler cause => rfl
    | _ => exact h.elim

/-- Runs go on alike after ends that make no difference. -/
theorem EndAlike.heeded {force : Bool} {r r' : Except Fault Outcome} (h : EndAlike force r r') :
    Agree (fun f f' => f.kind = f'.kind) (fun _ _ => True) (heeded force (concluded r))
      (heeded force (concluded r')) := by
  rcases h with ⟨rfl, hr, hr'⟩ | h
  · rw [heeded_concluded hr, heeded_concluded hr']
    exact trivial
  · rcases h.cases with ⟨o, o', hr, hr', -⟩ | ⟨f, f', hr, hr', hkind⟩
    · rw [hr, hr']
      exact trivial
    · rw [hr, hr']
      have hcompiler : (∃ cause, f = .compiler cause) ↔ ∃ cause, f' = .compiler cause := by
        rw [← Fault.kind_eq_compiler_iff, ← Fault.kind_eq_compiler_iff, hkind]
      have hother {f : Fault} (hf : ¬ ∃ cause, f = .compiler cause) :
          Compiler.heeded force (.error f) = .error f := by
        cases f with
        | compiler cause => exact absurd ⟨cause, rfl⟩ hf
        | _ => rfl
      by_cases hf : ∃ cause, f = .compiler cause
      · obtain ⟨cause', rfl⟩ := hcompiler.1 hf
        obtain ⟨cause, rfl⟩ := hf
        cases force with
        | true => exact trivial
        | false => exact hkind
      · rw [hother hf, hother (hf ∘ hcompiler.2)]
        exact hkind

/-- Two launches that write the same into two directories, and nothing else, with ends that make no
difference. -/
structure FillAlike (force : Bool) (D D' : Path) (tree tree' : Folder)
    (x x' : Except Fault Outcome × Folder) : Prop where
  /-- Their ends make no difference. -/
  ends : EndAlike force x.1 x'.1
  /-- What they leave in the directories is the same. -/
  files : Listing.SameBelow D D' x.2 x'.2
  /-- They do not put files in their place. -/
  noFile : x.2.fileAt D.parts = none
  /-- One changes nothing else. -/
  aside : ∀ ns, ¬ D.parts <+: ns → x.2.look ns = tree.look ns
  /-- Nor does the other. -/
  aside' : ∀ ns, ¬ D'.parts <+: ns → x'.2.look ns = tree'.look ns

theorem FillAlike.noFile' {force : Bool} {D D' : Path} {tree tree' : Folder}
    {x x' : Except Fault Outcome × Folder} (h : FillAlike force D D' tree tree' x x') :
    x'.2.fileAt D'.parts = none := by
  have hsame := h.files.look []
  rw [List.append_nil, List.append_nil] at hsame
  rw [Folder.fileAt, ← hsame]
  exact h.noFile

theorem gives_conclude (c : Compiler) (o : Outcome) : (c.conclude o).Gives (concluded (.ok o)) := by
  rw [conclude, concluded]
  have hlast : Action.Gives (do
      c.voice.verbose "Per-file typings have been generated using TSC!"
      pure o) (.ok o) := .bind (.say _ _ _) (.pure _)
  cases o.success with
  | false => exact .bind_error (.throw _)
  | true =>
    simp only [Bool.not_true, Bool.false_eq_true, if_false, if_true]
    split
    · exact .bind (.say _ _ _) hlast
    · exact hlast

/-- After a launch there are only reports to come. -/
theorem outcome_run (c : Compiler) (l : Launch) (σ : Session) :
    ∃ τ, (c.run l).outcome σ = (concluded (c.launcher l (σ.spot c.voice.host) σ.tree).1, τ) ∧
      (Generator.launched c l σ).Reported τ := by
  have hlaunch : (c.launch l).outcome σ =
      ((c.launcher l (σ.spot c.voice.host) σ.tree).1, Generator.launched c l σ) := by
    have hspot : Session.spot { σ with launches := σ.launches ++ [l] } c.voice.host =
      σ.spot c.voice.host := rfl
    change (Action.ofExcept (c.launcher l (Session.spot { σ with launches := σ.launches ++ [l] }
      c.voice.host) σ.tree).1).outcome (Generator.launched c l σ) = _
    rw [hspot]
    cases (c.launcher l (σ.spot c.voice.host) σ.tree).1 <;> rfl
  rw [run, Action.outcome_bind, hlaunch]
  cases (c.launcher l (σ.spot c.voice.host) σ.tree).1 with
  | error f => exact ⟨_, rfl, .refl _⟩
  | ok o => exact c.gives_conclude o _

end Compiler

/-! ## Reading the same -/

/-- A manifest is read alike where its file is. -/
theorem Manifest.lockstep_read {v : Voice} {root : Path} {R : Session → Session → Prop}
    (hclean : (root.child fileName).fault? v.host.halves = none) (hR : Session.StableOn R)
    (hread : ∀ σ σ', R σ σ' → Agree OsFault.Same Eq
      (σ.tree.readFile (σ.spot v.host) (root.child fileName))
      (σ'.tree.readFile (σ'.spot v.host) (root.child fileName))) :
    Action.Lockstep R (read v root) (read v root) (fun m m' σ σ' => m = m' ∧ R σ σ') R := by
  intro σ σ' hσ
  obtain ⟨τ, hτ, hfound⟩ := exists_found v root σ
  obtain ⟨τ', hτ', hfound'⟩ := exists_found v root σ'
  obtain ⟨ρ, hρ, hrun⟩ := outcome_read v root σ
  obtain ⟨ρ', hρ', hrun'⟩ := outcome_read v root σ'
  rw [fault?_manifestPath] at hclean
  rw [hclean] at hrun hrun'
  have hafter := hR σ σ' ρ ρ' hσ hρ hρ'
  rcases (hread τ τ' (hR σ σ' τ τ' hσ hτ hτ')).cases with
    ⟨content, _, hr, hr', rfl⟩ | ⟨e, e', hr, hr', -⟩
  · rw [hrun, hrun', hfound, hfound', hr, hr']
    cases verdict v.host.halves (root.child fileName) (.ok content) with
    | ok m => exact ⟨rfl, hafter⟩
    | error f => exact ⟨rfl, hafter⟩
  · rw [hrun, hrun', hfound, hfound', hr, hr']
    exact ⟨rfl, hafter⟩

/-- Files that are found alike below two scratch directories have the same names. -/
theorem Namer.name_alike {cwd root D D' p q : Path} {package : Text} {isFile isFile' : Text → Bool}
    (hD : D.Settled) (hD' : D'.Settled) (h : Listing.FoundAlike D D' isFile isFile' p q) :
    (Namer.make cwd package root D none).name isFile {} p.toText =
      (Namer.make cwd package root D' none).name isFile' {} q.toText := by
  obtain ⟨⟨ns, hns, rfl, rfl⟩, hflag⟩ := h
  have hparse {E : Path} (hE : E.Settled) : Path.parse (E.descend ns).toText = E.descend ns := by
    refine Path.parse_toText fun x hx => ?_
    rcases List.mem_append.1 hx with hx | hx
    · exact (hE.names x hx).1
    · exact (hns x hx).proper
  have hrel {E : Path} (hE : E.Settled) :
      (Namer.make cwd package root E none).relativeText .scratch (E.descend ns) = Path.partsText ns := by
    refine relativeText_scratch ?_ rfl fun hup => (hns _ hup).not_up rfl
    rw [Path.join_of_isAbsolute hE.isAbsolute]
    exact hE.isAbsolute
  rw [name, name, hparse hD, hparse hD', nameOf, nameOf, hrel hD, hrel hD', hflag]
  rfl

namespace Bundle.Aggregator

variable {a a' : Aggregator} {R : Session → Session → Prop}

theorem lockstep_readTexts (hR : Session.StableOn R) {B : Path → Path → Prop}
    {files files' : List FoundFile}
    (h : List.Forall₂ (fun x y => x.content = y.content ∧ B x.path y.path) files files') :
    Action.Lockstep R (a.readTexts files) (a'.readTexts files')
      (fun texts texts' σ σ' =>
        List.Forall₂ (fun x y => B x.1 y.1 ∧ x.2 = y.2) texts texts' ∧ R σ σ') R := by
  induction h with
  | nil => exact .pure fun _ _ hσ => ⟨.nil, hσ⟩
  | @cons x y files files' hxy _ ih =>
    rw [readTexts, readTexts, hxy.1]
    cases Utf8.decode y.content with
    | none =>
      exact .bind (.say hR _ _ _ _ _ _) fun _ _ => .bind (.say hR _ _ _ _ _ _) fun _ _ =>
        .throw rfl fun _ _ => id
    | some t => exact .bind ih fun _ _ => .pure fun _ _ hσ => ⟨.cons ⟨hxy.2, rfl⟩ hσ.1, hσ.2⟩

/-- Declarations that are found alike are loaded alike. -/
theorem lockstep_loadDeclarations {D D' : Path} {cwd root : Path} {package : Text}
    (hD : a.voice.host.Takes D) (hD' : a.voice.host.Takes D') (hhost : a.voice.host = a'.voice.host)
    (hnamer : a.namer = Namer.make cwd package root D none)
    (hnamer' : a'.namer = Namer.make cwd package root D' none) (hR : Session.StableOn R)
    (hfiles : ∀ σ σ', R σ σ' → Agree OsFault.Same
      (List.Forall₂ fun x y => x.content = y.content ∧
        Listing.FoundAlike D D' (σ.tree.isFileText (σ.spot a.voice.host))
          (σ'.tree.isFileText (σ'.spot a.voice.host)) x.path y.path)
      (Listing.files σ.tree (σ.spot a.voice.host) D) (Listing.files σ'.tree (σ'.spot a.voice.host) D')) :
    Action.Lockstep R (a.loadDeclarations D) (a'.loadDeclarations D')
      (fun d d' σ σ' => d = d' ∧ R σ σ') R := by
  simp only [loadDeclarations, listFiles, bind_assoc, ← hhost]
  refine .bind (.say hR _ _ _ _ _ _) fun _ _ => .bind (.checkPath hD.clean hD'.clean) fun _ _ =>
    .get_bind fun σ σ' hσ => ?_
  rcases (hfiles σ σ' hσ).cases with ⟨files, files', hok, hok', hall⟩ | ⟨e, e', herr, herr', hsame⟩
  · simp only [hok, hok', bind_assoc, pure_bind]
    -- From here on there are only reports, so what counts as a file is settled.
    have hrep : Session.StableOn fun τ τ' => σ.Reported τ ∧ σ'.Reported τ' :=
      fun _ _ _ _ h hleft hright => ⟨h.1.trans hleft, h.2.trans hright⟩
    refine Action.Lockstep.weaken (R := fun τ τ' => σ.Reported τ ∧ σ'.Reported τ')
      (Q := fun d d' τ τ' => d = d' ∧ σ.Reported τ ∧ σ'.Reported τ')
      (E := fun τ τ' => σ.Reported τ ∧ σ'.Reported τ') ?_
      (fun τ τ' hτ => by rw [hτ.1, hτ.2]; exact ⟨.refl σ, .refl σ'⟩)
      (fun _ _ τ τ' h => ⟨h.1, hR σ σ' τ τ' hσ h.2.1 h.2.2⟩)
      fun τ τ' h => hR σ σ' τ τ' hσ h.1 h.2
    refine .bind (.say hrep _ _ _ _ _ _) fun _ _ => .bind (lockstep_readTexts hrep hall)
      fun texts texts' => .assume fun htexts => .bind (.say hrep _ _ _ _ _ _) fun _ _ =>
        .get_bind fun τ τ' hτ => ?_
    have hnamed : named a.namer (τ.tree.isFileText (τ.spot a.voice.host)) texts =
        named a'.namer (τ'.tree.isFileText (τ'.spot a.voice.host)) texts' := by
      rw [hτ.1.isFileText, hτ.2.isFileText, named, named, hnamer, hnamer']
      congr 1
      induction htexts with
      | nil => rfl
      | cons hxy _ ih =>
        rw [List.map_cons, List.map_cons, ih, hxy.2, Namer.name_alike hD.settled hD'.settled hxy.1]
    rw [hnamed]
    refine Action.Lockstep.weaken (R := fun τ τ' => σ.Reported τ ∧ σ'.Reported τ')
      (Q := fun d d' τ τ' => d = d' ∧ σ.Reported τ ∧ σ'.Reported τ')
      (E := fun τ τ' => σ.Reported τ ∧ σ'.Reported τ') ?_ (fun _ _ h => by rw [h.1, h.2]; exact hτ)
      (fun _ _ _ _ => id) fun _ _ => id
    exact .bind (.say hrep _ _ _ _ _ _) fun _ _ => .pure fun _ _ h => ⟨rfl, h⟩
  · simp only [herr, herr', bind_assoc]
    refine Action.Lockstep.weaken (R := R) (Q := fun d d' σ σ' => d = d' ∧ R σ σ') (E := R) ?_
      (fun τ τ' hτ => by rw [hτ.1, hτ.2]; exact hσ) (fun _ _ _ _ => id) fun _ _ => id
    refine .bind (.say hR _ _ _ _ _ _) fun _ _ => .bind (.say hR _ _ _ _ _ _) fun _ _ =>
      .bind (Q := fun _ _ _ _ => False) (.throw ?_ fun _ _ => id) fun _ _ _ _ h => h.elim
    exact congrArg Errno.kind hsame

end Bundle.Aggregator

namespace Generator

open Session (Twins Near SameMark Recalls Seasoned)
open Scratch (Paired stableOn_paired)
open Listing (SameBelow)

/-- A run goes on, or stops, as the end of its compiler says. -/
theorem gives_heed (g : Generator) (s : Settings) (r : Except Fault Outcome) :
    (g.heed s r).Gives (Compiler.heeded s.force.holds r) := by
  cases r with
  | ok o => exact .pure _
  | error f =>
    cases f with
    | compiler cause =>
      rw [heed, Compiler.heeded]
      split
      · exact .bind (.say _ _ _) (.bind (.say _ _ _) (.bind (.say _ _ _) (.say _ _ _)))
      · exact .bind (.say _ _ _) (.throw _)
    | _ => exact .throw _

/-- What two runs with the same settings have in common.  `P` says which places correspond, `K` and
`K'` which files are veiled, and `D` and `D'` are the scratch directories. -/
structure Parallel (g : Generator) (s : Settings) (c c' : Compiler)
    (P : List Text → List Text → Prop) (K K' : List Text → Prop) (D D' : Path) : Prop where
  /-- The places correspond one to one. -/
  mirror : Mirror P
  /-- So do the scratch directories. -/
  scratch : D.Facing P D'
  /-- And what is below them, by its names. -/
  below : ∀ ks ms, P (D.parts ++ ks) ms → ms = D'.parts ++ ks
  /-- One of them is not the root. -/
  ne : D.parts ≠ []
  /-- Nothing in it is veiled. -/
  unveiled : ∀ ns, D.parts <+: ns → ¬ K ns
  /-- Nor is anything in the other. -/
  unveiled' : ∀ ns, D'.parts <+: ns → ¬ K' ns
  /-- The working directory corresponds to itself. -/
  cwd : P g.voice.host.cwd.parts g.voice.host.cwd.parts
  /-- So does the place of the bundle. -/
  output : ∀ target, s.outputPath g.voice.host = .ok target → P target.parts target.parts
  /-- And the file of the package, -/
  package : P s.packageFile.parts s.packageFile.parts
  /-- which is not veiled. -/
  clear : ¬ (K s.packageFile.parts ∨ K' s.packageFile.parts)
  /-- One scratch directory can be asked for. -/
  takes : g.voice.host.Takes D
  /-- So can the other. -/
  takes' : g.voice.host.Takes D'
  /-- Nobody else is at work. -/
  still : g.voice.host.Still
  /-- Nothing lies too deep. -/
  free : g.voice.host.Boundless
  /-- The settings have paths that can be asked for. -/
  located : s.Located g.voice.host
  /-- The compilers are launched where the run is. -/
  host : c.voice.host = g.voice.host
  /-- Both of them. -/
  host' : c'.voice.host = g.voice.host

/-- Two runs whose launches fill their scratch directories alike, if these are empty and all else is
the same when the runs come to them. -/
def Fills (g : Generator) (s : Settings) (c c' : Compiler) (P : List Text → List Text → Prop)
    (K K' : List Text → Prop) (D D' : Path) (σ σ' : Session) : Prop :=
  ∀ l l' τ τ', (Generator.ready { g with compiler := c } s D).outcome σ = (.ok l, τ) →
    (Generator.ready { g with compiler := c' } s D').outcome σ' = (.ok l', τ') →
    Twins g.voice.host P K K' τ τ' → τ.Bare D → τ'.Bare D' →
    Compiler.FillAlike s.force.holds D D' τ.tree τ'.tree (c.launcher l (τ.spot g.voice.host) τ.tree)
      (c'.launcher l' (τ'.spot g.voice.host) τ'.tree)

/-- Twins with launches that fill their scratch directories alike. -/
def Loaded (g : Generator) (s : Settings) (c c' : Compiler) (P : List Text → List Text → Prop)
    (K K' : List Text → Prop) (D D' : Path) (l l' : Launch) (σ σ' : Session) : Prop :=
  Paired g.voice.host P K K' D D' σ σ' ∧
    Compiler.FillAlike s.force.holds D D' σ.tree σ'.tree
      (c.launcher l (σ.spot g.voice.host) σ.tree) (c'.launcher l' (σ'.spot g.voice.host) σ'.tree)

/-- Twins with the same in their scratch directories. -/
def Stocked (host : Host) (P : List Text → List Text → Prop) (K K' : List Text → Prop) (D D' : Path)
    (σ σ' : Session) : Prop :=
  Paired host P K K' D D' σ σ' ∧ SameBelow D D' σ.tree σ'.tree

/-- It does not matter which manifests are remembered. -/
theorem Stocked.remembers {host : Host} {P : List Text → List Text → Prop}
    {K K' : List Text → Prop} {D D' : Path} {σ σ' : Session} (h : Stocked host P K K' D D' σ σ')
    (m m' : Option Manifest) :
    Stocked host P K K' D D' { σ with manifest := m } { σ' with manifest := m' } :=
  ⟨⟨h.1.1.congr ⟨rfl, rfl, rfl⟩ ⟨rfl, rfl, rfl⟩, h.1.2⟩, h.2⟩

namespace Parallel

variable {g : Generator} {s : Settings} {c c' : Compiler} {P : List Text → List Text → Prop}
  {K K' : List Text → Prop} {D D' : Path} {file : Option (Bytes × FileMode)}

theorem ne' (h : Parallel g s c c' P K K' D D') : D'.parts ≠ [] :=
  h.scratch.parts_ne_nil h.mirror h.ne

theorem stableOn_stocked (h : Parallel g s c c' P K K' D D') :
    Session.StableOn (Stocked g.voice.host P K K' D D') := by
  intro σ σ' τ τ' hσ hrep hrep'
  obtain ⟨hpaired, hbelow⟩ := hσ
  refine ⟨stableOn_paired (v := g.voice) σ σ' τ τ' hpaired hrep hrep', ?_⟩
  -- No report goes below the scratch directories.
  have hsame (ns : List Text) : τ.tree.get? (D.parts ++ ns) = σ.tree.get? (D.parts ++ ns) :=
    hrep.inside _ fun ms hw => h.unveiled _ (by
      rw [List.append_assoc]
      exact List.prefix_append _ _) (hpaired.1.veiled _ hw)
  have hsame' (ns : List Text) : τ'.tree.get? (D'.parts ++ ns) = σ'.tree.get? (D'.parts ++ ns) :=
    hrep'.inside _ fun ms hw => h.unveiled' _ (by
      rw [List.append_assoc]
      exact List.prefix_append _ _) (hpaired.1.veiled' _ hw)
  refine ⟨fun ns => ?_, fun ns hns => hbelow.level ns ?_, fun inner hinner => ?_, fun inner hinner => ?_⟩
  · rw [Folder.look, Folder.look, hsame, hsame']
    exact hbelow.look ns
  · rwa [Folder.look, hsame] at hns
  · have hget := hsame []
    rw [List.append_nil] at hget
    exact hbelow.names inner (hget ▸ hinner)
  · have hget := hsame' []
    rw [List.append_nil] at hget
    exact hbelow.names' inner (hget ▸ hinner)

/-! ## The compiler -/

theorem mirrors_launched (h : Parallel g s c c' P K K' D D') {f f' k k' : Folder}
    (htrees : f.Mirrors P (fun ns ms => K ns ∨ K' ms) f')
    (hk : ∀ ns, ¬ D.parts <+: ns → k.look ns = f.look ns)
    (hk' : ∀ ns, ¬ D'.parts <+: ns → k'.look ns = f'.look ns) (hbelow : SameBelow D D' k k') :
    k.Mirrors P (fun ns ms => K ns ∨ K' ms) k' := by
  have hinside {ns ms : List Text} (hns : P ns ms) (hpre : D.parts <+: ns) : k.look ns = k'.look ms := by
    obtain ⟨ks, rfl⟩ := hpre
    rw [h.below ks ms hns]
    exact hbelow.look ks
  have houtside {ns ms : List Text} (hns : P ns ms) (hpre : ¬ D.parts <+: ns) : ¬ D'.parts <+: ms :=
    fun hpre' => hpre ((h.mirror.prefix_iff h.scratch.places hns).2 hpre')
  constructor
  · intro ns ms hns
    by_cases hpre : D.parts <+: ns
    · rw [Folder.kindAt_eq, Folder.kindAt_eq, hinside hns hpre]
    · rw [Folder.kindAt_eq, Folder.kindAt_eq, hk ns hpre, hk' ms (houtside hns hpre),
        ← Folder.kindAt_eq, ← Folder.kindAt_eq]
      exact htrees.kinds hns
  · intro ns ms hns hclear
    by_cases hpre : D.parts <+: ns
    · exact hinside hns hpre
    · rw [hk ns hpre, hk' ms (houtside hns hpre)]
      exact htrees.looks hns hclear

/-- The scratch directories are made anew alike, and launches are prepared for both or for
neither. -/
theorem lockstep_ready (h : Parallel g s c c' P K K' D D') :
    Action.Lockstep (Near g.voice.host P K K' D D')
      (Generator.ready { g with compiler := c } s D) (Generator.ready { g with compiler := c' } s D')
      (fun _ _ σ σ' => Paired g.voice.host P K K' D D' σ σ' ∧ Session.Bare D σ ∧ Session.Bare D' σ')
      (Paired g.voice.host P K K' D D') := by
  have hstable : Session.StableOn fun σ σ' =>
      Paired g.voice.host P K K' D D' σ σ' ∧ Session.Bare D σ ∧ Session.Bare D' σ' :=
    (stableOn_paired (v := g.voice)).and (Session.stable_bare.both Session.stable_bare)
  rw [ready, ready]
  refine .bind (Q := fun _ _ σ σ' => Near g.voice.host P K K' D D' σ σ' ∧ SameMark D D' σ σ')
    (.modify fun σ σ' hσ => ?_) fun _ _ => .bind (Scratch.lockstep_reset h.free h.mirror h.scratch
      h.takes.clean h.takes'.clean h.ne h.ne' h.still) fun _ _ => ?_
  · obtain ⟨htwins, hvacant, hvacant'⟩ := hσ
    exact ⟨⟨htwins.congr ⟨rfl, rfl, rfl⟩ ⟨rfl, rfl, rfl⟩, hvacant, hvacant'⟩, ⟨true, rfl, rfl⟩⟩
  · rcases g.gives_prepare s with ⟨options, dir, hgives⟩ | ⟨f, -, hgives⟩
    · exact (Action.Lockstep.of_gives (S := fun _ _ => True) (hgives c D) (hgives c' D') hstable
        trivial).weaken (fun _ _ => id) (fun _ _ _ _ hσ => hσ.2) fun _ _ hσ => hσ.1
    · exact (Action.Lockstep.of_gives (S := fun _ _ => True) (hgives c D) (hgives c' D') hstable
        (rfl : f.kind = f.kind)).weaken (fun _ _ => id) (fun _ _ _ _ hσ => hσ.2) fun _ _ hσ => hσ.1

/-- Launches that fill the scratch directories alike leave twins with the same in them, which recall
the file in the package as before. -/
theorem stocked_launched (h : Parallel g s c c' P K K' D D') (hclears : Clears s file D)
    (hclears' : Clears s file D') {l l' : Launch} {σ σ' : Session}
    (hloaded : Loaded g s c c' P K K' D D' l l' σ σ') (hσ : Recalls s g.voice.host file σ)
    (hσ' : Recalls s g.voice.host file σ') :
    Stocked g.voice.host P K K' D D' (launched c l σ) (launched c' l' σ') ∧
      Recalls s g.voice.host file (launched c l σ) ∧
        Recalls s g.voice.host file (launched c' l' σ') := by
  obtain ⟨⟨htwins, hmark⟩, hfill⟩ := hloaded
  have hnoted : Twins g.voice.host P K K' { σ with launches := σ.launches ++ [l] }
      { σ' with launches := σ'.launches ++ [l'] } := htwins.congr ⟨rfl, rfl, rfl⟩ ⟨rfl, rfl, rfl⟩
  have hleft : launched c l σ = Session.withTree { σ with launches := σ.launches ++ [l] } g.voice.host
      (c.launcher l (σ.spot g.voice.host) σ.tree).2 := by rw [launched, h.host]
  have hright : launched c' l' σ' = Session.withTree { σ' with launches := σ'.launches ++ [l'] }
      g.voice.host (c'.launcher l' (σ'.spot g.voice.host) σ'.tree).2 := by rw [launched, h.host']
  refine ⟨?_, recalls_launched hσ ?_, recalls_launched hσ' ?_⟩
  · rw [hleft, hright]
    exact ⟨⟨hnoted.withTree (h.mirrors_launched htwins.trees hfill.aside hfill.aside' hfill.files),
        hmark⟩,
      hfill.files⟩
  · rw [hleft]
    exact hclears.there hσ.there hfill.aside hfill.noFile
  · rw [hright]
    exact hclears'.there hσ'.there hfill.aside' hfill.noFile'

/-- After such launches the runs go on both, or stop both. -/
theorem lockstep_compile (h : Parallel g s c c' P K K' D D') (hclears : Clears s file D)
    (hclears' : Clears s file D') (l l' : Launch) :
    Action.Lockstep
      (fun σ σ' => Loaded g s c c' P K K' D D' l l' σ σ' ∧ Recalls s g.voice.host file σ ∧
        Recalls s g.voice.host file σ')
      (Generator.compile { g with compiler := c } s l) (Generator.compile { g with compiler := c' } s l')
      (fun _ _ σ σ' => Stocked g.voice.host P K K' D D' σ σ' ∧ Recalls s g.voice.host file σ ∧
        Recalls s g.voice.host file σ')
      (Paired g.voice.host P K K' D D') := by
  have hstable : Session.StableOn fun σ σ' => Stocked g.voice.host P K K' D D' σ σ' ∧
      Recalls s g.voice.host file σ ∧ Recalls s g.voice.host file σ' :=
    h.stableOn_stocked.and (Session.stable_recalls.both Session.stable_recalls)
  have hheed {x y : Except Fault Outcome} (hxy : Agree (fun f f' => f.kind = f'.kind)
      (fun _ _ => True) (Compiler.heeded s.force.holds x) (Compiler.heeded s.force.holds y)) :
      Action.Lockstep
        (fun σ σ' => Stocked g.voice.host P K K' D D' σ σ' ∧ Recalls s g.voice.host file σ ∧
          Recalls s g.voice.host file σ')
        (Generator.heed { g with compiler := c } s x) (Generator.heed { g with compiler := c' } s y)
        (fun _ _ σ σ' => Stocked g.voice.host P K K' D D' σ σ' ∧ Recalls s g.voice.host file σ ∧
          Recalls s g.voice.host file σ') (Paired g.voice.host P K K' D D') :=
    (Action.Lockstep.of_gives (gives_heed _ s x) (gives_heed _ s y) hstable hxy).weaken
      (fun _ _ => id) (fun _ _ _ _ hσ => hσ.2) fun _ _ hσ => hσ.1.1
  intro σ σ' hσ
  obtain ⟨τ, hrun, hrep⟩ := c.outcome_run l σ
  obtain ⟨τ', hrun', hrep'⟩ := c'.outcome_run l' σ'
  have hends := hσ.1.2.ends.heeded
  rw [h.host] at hrun
  rw [h.host'] at hrun'
  have hseen := Action.outcome_observe (c.run l) σ
  have hseen' := Action.outcome_observe (c'.run l') σ'
  rw [hrun] at hseen
  rw [hrun'] at hseen'
  rw [compile, compile, Action.outcome_bind_ok hseen, Action.outcome_bind_ok hseen']
  exact hheed hends τ τ' (hstable _ _ τ τ' (h.stocked_launched hclears hclears' hσ.1 hσ.2.1 hσ.2.2)
    hrep hrep')

end Parallel
end Generator
end AmbientBundle
