import AmbientBundle.Generate
import AmbientBundle.Proofs.FileTree.Taken

/-!
# Where a run works

The paths of a run are settled, and its host takes them: the package directory and the scratch
directory are made absolute when settings are made (`located_of_ofDraft`), so is the path at which
the bundle is stored (`Located.outputPath`), and temporary directories are numbered names in one
directory.

The *area* of a run is the directory that it clears and removes: the scratch directory of the
settings, or the temporary directory it makes.  A compiler is *confined* if it touches nothing
outside of the directory that it is told to write to, and *tidy* if, moreover, it does not put a
file in the place of that directory.
-/

namespace AmbientBundle

/-! ## Temporary directories -/

/-- The name of the temporary directory with a number. -/
def temporaryName (k : Nat) : Text := toolName.toList ++ '-' :: Nat.toDigits 10 k

/-- The temporary directory with a number. -/
def Host.temporaryAt (host : Host) (k : Nat) : Path := host.temporary.child (temporaryName k)

theorem mem_temporaryName {k : Nat} {c : Char} (h : c ∈ temporaryName k) :
    c ∈ toolName.toList ∨ c = '-' ∨ c.isDigit = true := by
  rcases List.mem_append.1 h with h | h
  · exact Or.inl h
  · rcases List.mem_cons.1 h with h | h
    · exact Or.inr (Or.inl h)
    · exact Or.inr (Or.inr (Nat.isDigit_of_mem_toDigits (by decide) (by decide) h))

theorem proper_temporaryName (k : Nat) : Path.Proper (temporaryName k) ∧ temporaryName k ≠ upPart := by
  have hfirst : (temporaryName k).head? = some 'd' := rfl
  refine ⟨⟨?_, fun hmem => ?_⟩, fun heq => ?_⟩
  · have hnil : temporaryName k ≠ [] := fun heq => by rw [heq] at hfirst; cases hfirst
    have hhere : temporaryName k ≠ herePart := fun heq => by
      rw [heq] at hfirst
      exact absurd hfirst (by decide)
    simp [Path.isPart, hnil, hhere]
  · rcases mem_temporaryName hmem with h | h | h <;> exact absurd h (by decide)
  · rw [heq] at hfirst
    exact absurd hfirst (by decide)

theorem isPlain_temporaryName (k : Nat) : Text.isPlain (temporaryName k) = true := by
  refine Text.isPlain_iff.2 fun c hc => ?_
  rcases mem_temporaryName hc with h | rfl | h
  · exact Text.isPlain_iff.1 (by decide) c h
  · decide
  · rw [Char.isDigit, Bool.and_eq_true, decide_eq_true_eq, decide_eq_true_eq] at h
    have hnine : c.toNat ≤ 57 := UInt32.le_iff_toNat_le.1 h.2
    refine ⟨by omega, ?_⟩
    rintro rfl
    exact absurd h.1 (by decide)

theorem Host.takes_temporaryAt {host : Host} (h : host.Takes host.temporary) (k : Nat) :
    host.Takes (host.temporaryAt k) :=
  h.child (proper_temporaryName k) (isPlain_temporaryName k)

theorem Generator.takes_scratchName {host : Host} {p : Path} (h : host.Takes p) :
    host.Takes (p.child scratchName) :=
  h.child ⟨⟨by decide, by decide⟩, by decide⟩ (by decide)

/-! ## Settings -/

/-- Settings whose paths a host takes. -/
structure Settings.Located (s : Settings) (host : Host) : Prop where
  /-- It takes the package directory. -/
  root : ∃ p, s.root = .path p ∧ host.Takes p
  /-- And the scratch directory, if there is one. -/
  tmp : s.tmp = .value .null ∨ ∃ p, s.tmp = .path p ∧ host.Takes p

/-- No part of a path made absolute is new. -/
theorem Path.mem_under {cwd p : Path} (habs : (cwd.join p).isAbsolute = true) {x : Text}
    (hx : x ∈ (Path.under cwd p).parts) : x ∈ cwd.parts ∨ x ∈ p.parts := by
  rw [Path.under, Path.parts_normal habs] at hx
  have hjoin := Path.mem_of_mem_normalParts hx
  obtain ⟨anchor, parts⟩ := p
  cases anchor with
  | here => exact List.mem_append.1 hjoin
  | root => exact Or.inr hjoin
  | doubleRoot => exact Or.inr hjoin

/-- A path made absolute is settled. -/
theorem Path.settled_under {cwd p : Path} (hcwd : ∀ x ∈ cwd.parts, Path.Proper x)
    (habs : (cwd.join p).isAbsolute = true) (hp : ∀ x ∈ p.parts, Path.Proper x) :
    (Path.mk .root (Path.under cwd p).parts).Settled where
  anchor := rfl
  names := by
    intro x hx
    refine ⟨(Path.mem_under habs hx).elim (hcwd x) (hp x), fun hup => ?_⟩
    rw [hup, Path.under, Path.parts_normal habs] at hx
    exact Path.up_not_mem_normalParts _ hx

/-- What a path of settings resolves to is taken. -/
theorem Settings.takes_resolved {host : Host} {p q : Path} (hcwd : ∀ x ∈ host.cwd.parts, Path.Proper x)
    (hclean : host.cwd.fault? host.halves = none) (habs : (host.cwd.join p).isAbsolute = true)
    (hp : ∀ x ∈ p.parts, Path.Proper x) (h : resolved host p = .ok q) : host.Takes q := by
  rw [resolved] at h
  split at h
  · cases h
  · next hfree =>
    cases h
    refine ⟨Path.settled_under hcwd habs hp, Path.fault?_eq_none_iff.2 fun x hx => ?_⟩
    exact (Path.mem_under habs hx).elim (Path.fault?_eq_none_iff.1 hclean x)
      (Path.fault?_eq_none_iff.1 (Path.partFault?_eq_none_iff.1 hfree) x)

/-- The bundle is stored at a path that is taken. -/
theorem Settings.Located.outputPath {s : Settings} {host : Host} (hs : s.Located host) {target : Path}
    (h : s.outputPath host = .ok target) : host.Takes target := by
  obtain ⟨root, hroot, hsettled, -⟩ := hs.root
  rw [Settings.outputPath, hroot] at h
  split at h
  · next heq _ =>
    cases heq
    have habs := Path.isAbsolute_join hsettled.isAbsolute (Path.parse ‹Text›)
    have hjoin := Path.join_of_isAbsolute (p := host.cwd) habs
    -- The package directory is absolute, so the working directory does not matter.
    have hresolve : resolved { host with cwd := ⟨.root, []⟩ } (root.join (Path.parse ‹Text›)) =
        .ok target := by
      rw [resolved, Path.resolve, Path.under, hjoin] at h
      rwa [resolved, Path.resolve, Path.under, Path.join_of_isAbsolute habs]
    have htakes : ({ host with cwd := ⟨.root, []⟩ } : Host).Takes target :=
      takes_resolved (fun x hx => absurd hx List.not_mem_nil) rfl
        (by rwa [Path.join_of_isAbsolute habs]) (fun x hx => ?_) hresolve
    · exact ⟨htakes.settled, htakes.clean⟩
    · rw [Path.join] at hx
      split at hx
      · rcases List.mem_append.1 hx with hx | hx
        · exact (hsettled.names x hx).1
        · exact Path.proper_of_mem_parse hx
      · exact Path.proper_of_mem_parse hx
  · cases h
  · next heq => cases heq

/-- A host whose directories can be written as paths, and that takes its working directory. -/
structure Host.Settled (host : Host) : Prop where
  /-- It takes its working directory. -/
  cwd : host.Takes host.cwd
  /-- The home directory can be written. -/
  home : ∀ x ∈ host.home.parts, Path.Proper x
  /-- So can those of other users. -/
  users : ∀ u ∈ host.users, ∀ x ∈ u.2.parts, Path.Proper x

section

variable {host : Host} {p q : Path}

theorem Host.Settled.expandHome (hhost : host.Settled) (hp : ∀ x ∈ p.parts, Path.Proper x)
    (h : Path.expandHome? host.home host.users p = some q) : ∀ x ∈ q.parts, Path.Proper x := by
  rw [Path.expandHome?] at h
  split at h
  · next heq =>
    have hrest : ∀ x ∈ ‹List Text›, Path.Proper x := fun x hx =>
      hp x (by rw [heq]; exact List.mem_cons_of_mem _ hx)
    split at h
    · cases h
      intro x hx
      rcases List.mem_append.1 hx with hx | hx
      · exact hhost.home x hx
      · exact hrest x hx
    · obtain ⟨dir, hdir, rfl⟩ := Option.map_eq_some_iff.1 h
      intro x hx
      rcases List.mem_append.1 hx with hx | hx
      · obtain ⟨front, back, husers, _⟩ := List.lookup_eq_some_iff.1 hdir
        exact hhost.users _ (by rw [husers]; exact List.mem_append_right _ List.mem_cons_self) x hx
      · exact hrest x hx
  · cases h
    exact hp

theorem Settings.takes_absoluteSetting (hhost : host.Settled) {x y : Setting}
    (hx : ∀ p, x = .path p → ∀ n ∈ p.parts, Path.Proper n) (h : absoluteSetting host x = .ok y) :
    ∃ p, y = .path p ∧ host.Takes p := by
  have hpath {p : Path} (hp : x.toPath = .ok p) : ∀ n ∈ p.parts, Path.Proper n := by
    unfold Setting.toPath at hp
    split at hp
    · cases hp
      exact hx _ rfl
    · cases hp
      exact fun n hn => Path.proper_of_mem_parse hn
    · cases hp
  rw [absoluteSetting] at h
  cases hto : x.toPath with
  | error e => rw [hto] at h; cases h
  | ok p =>
    rw [hto] at h
    cases habs : absolute host p with
    | error e => simp only [Bind.bind, Except.bind, habs] at h; cases h
    | ok q =>
      simp only [Bind.bind, Except.bind, habs] at h
      cases h
      refine ⟨q, rfl, ?_⟩
      rw [absolute] at habs
      split at habs
      · cases habs
      · next r hr =>
        exact takes_resolved (fun x hx => (hhost.cwd.settled.names x hx).1) hhost.cwd.clean
          (Path.isAbsolute_join hhost.cwd.settled.isAbsolute r) (hhost.expandHome (hpath hto) hr) habs

/-- Settings that were made of a draft have paths that the host takes. -/
theorem Settings.located_of_ofDraft (hhost : host.Settled) {d : Draft}
    (hd : ∀ field p, d field = some (.path p) → ∀ n ∈ p.parts, Path.Proper n) {s : Settings}
    (h : ofDraft host d = .ok s) : s.Located host := by
  rw [ofDraft] at h
  cases hroot : absoluteSetting host ((d .root).getD (.path host.cwd)) with
  | error e => rw [hroot] at h; cases h
  | ok root =>
    cases htmp : optionalPath host (d .tmp) with
    | error e => simp only [Bind.bind, Except.bind, hroot, htmp] at h; cases h
    | ok tmp =>
      cases hlog : optionalPath host (d .logFile) with
      | error e => simp only [Bind.bind, Except.bind, hroot, htmp, hlog] at h; cases h
      | ok log =>
        simp only [Bind.bind, Except.bind, hroot, htmp, hlog] at h
        cases h
        refine ⟨takes_absoluteSetting hhost (fun p hp => ?_) hroot, ?_⟩
        · cases hgiven : d .root with
          | none =>
            rw [hgiven] at hp
            cases hp
            exact fun n hn => (hhost.cwd.settled.names n hn).1
          | some x =>
            rw [hgiven] at hp
            exact hd .root p (by rw [hgiven]; exact congrArg some hp)
        · unfold optionalPath at htmp
          split at htmp
          · cases htmp
            exact Or.inl rfl
          · cases htmp
            exact Or.inl rfl
          · next x hgiven =>
            exact Or.inr (takes_absoluteSetting hhost
              (fun p hp => hd .tmp p (by rw [hgiven, hp])) htmp)

end

/-! ## Areas -/

/-- The directory that a run clears and removes, given the number of its temporary directory. -/
def Settings.area (s : Settings) (host : Host) (k : Nat) : Path :=
  match s.tmp with
  | .path p => p
  | .value _ => host.temporaryAt k

/-- The temporary directory that a run makes, if it does, given its number. -/
def Settings.temporary? (s : Settings) (host : Host) (k : Nat) : Option Path :=
  match s.tmp with
  | .path _ => none
  | .value _ => some (host.temporaryAt k)

/-- The scratch directory of a run, given the number of its temporary directory. -/
def Settings.scratch (s : Settings) (host : Host) (k : Nat) : Path :=
  match s.tmp with
  | .path p => p
  | .value _ => (host.temporaryAt k).child Generator.scratchName

namespace Settings.Located

variable {s : Settings} {host : Host}

theorem area (hs : s.Located host) (htemp : host.Takes host.temporary) (k : Nat) :
    host.Takes (s.area host k) := by
  rw [Settings.area]
  rcases hs.tmp with h | ⟨p, h, hp⟩
  · rw [h]
    exact Host.takes_temporaryAt htemp k
  · rw [h]
    exact hp

theorem scratch (hs : s.Located host) (htemp : host.Takes host.temporary) (k : Nat) :
    host.Takes (s.scratch host k) := by
  rw [Settings.scratch]
  rcases hs.tmp with h | ⟨p, h, hp⟩
  · rw [h]
    exact Generator.takes_scratchName (Host.takes_temporaryAt htemp k)
  · rw [h]
    exact hp

end Settings.Located

/-- The scratch directory lies in the area. -/
theorem Settings.area_prefix_scratch (s : Settings) (host : Host) (k : Nat) :
    (s.area host k).parts <+: (s.scratch host k).parts := by
  rw [Settings.area, Settings.scratch]
  split
  · exact List.prefix_rfl
  · exact List.prefix_append _ _

theorem Settings.scratch_ne_nil {s : Settings} {host : Host} {k : Nat}
    (hne : (s.area host k).parts ≠ []) : (s.scratch host k).parts ≠ [] := fun hnil =>
  hne (List.prefix_nil.1 (hnil ▸ s.area_prefix_scratch host k))

/-- The scratch directory is the whole area exactly if the settings have one. -/
theorem Settings.Located.area_eq_scratch_iff {s : Settings} {host : Host} (hs : s.Located host)
    (k : Nat) : s.area host k = s.scratch host k ↔ s.tmp ≠ .value .null := by
  rw [Settings.area, Settings.scratch]
  rcases hs.tmp with hnull | ⟨d, hd, -⟩
  · rw [hnull]
    refine ⟨fun hsame => ?_, fun h => absurd rfl h⟩
    have hlength := congrArg (List.length ∘ Path.parts) hsame
    simp [Path.child] at hlength
  · rw [hd]
    refine ⟨fun _ h => ?_, fun _ => rfl⟩
    cases h

/-- If it is not, the area does not lie in it. -/
theorem Settings.Located.not_scratch_prefix_area {s : Settings} {host : Host} {k : Nat}
    (hs : s.Located host) (htemp : host.Takes host.temporary)
    (hother : s.area host k ≠ s.scratch host k) :
    ¬ (s.scratch host k).parts <+: (s.area host k).parts := by
  intro hle
  have hinside := s.area_prefix_scratch host k
  have hparts := hinside.eq_of_length (Nat.le_antisymm hinside.length_le hle.length_le)
  exact hother ((hs.area htemp k).settled.eq_mk.trans
    (hparts ▸ (hs.scratch htemp k).settled.eq_mk.symm))

theorem Settings.area_eq_of_temporary? {s : Settings} {host : Host} {k : Nat} {dir : Path}
    (h : s.temporary? host k = some dir) : s.area host k = dir := by
  rw [Settings.temporary?] at h
  rw [Settings.area]
  split at h
  · cases h
  · exact Option.some.inj h

theorem Settings.area_eq_scratch {s : Settings} {host : Host} {k : Nat}
    (h : s.temporary? host k = none) : s.area host k = s.scratch host k := by
  rw [Settings.temporary?] at h
  rw [Settings.area, Settings.scratch]
  split at h
  · rfl
  · cases h

/-! ## Compilers -/

namespace Compiler

/-- A compiler that touches nothing outside of the directory it is told to write to. -/
def Confined (c : Compiler) : Prop :=
  ∀ (dir : Path) (options : List Text) (cwd : Path) (search : Text) (spot : Spot) (tree : Folder),
    dir.Settled → ∀ ns, ¬ dir.parts <+: ns →
      (c.launcher ⟨baseCommand c.executable dir ++ options, cwd, search⟩ spot tree).2.look ns =
        tree.look ns

/-- A confined compiler that puts no file in the place of the directory it is told to write to.
It may remove that directory, and end in any way. -/
structure Tidy (c : Compiler) : Prop where
  /-- It touches nothing else. -/
  confined : c.Confined
  /-- It does not turn the directory into a file. -/
  noFile : ∀ (dir : Path) (options : List Text) (cwd : Path) (search : Text) (spot : Spot)
    (tree : Folder), dir.Settled → tree.fileAt dir.parts = none →
      (c.launcher ⟨baseCommand c.executable dir ++ options, cwd, search⟩ spot tree).2.fileAt
        dir.parts = none

/-- Which options follow the words that name the directory depends neither on that nor on the
program.  If there is no command, that is no fault of the compiler. -/
theorem command_cases (v : Value) :
    (∃ options, ∀ executable dir,
      command executable dir v = .ok (baseCommand executable dir ++ options)) ∨
    ∃ f, (∀ cause, f ≠ .compiler cause) ∧ ∀ executable dir, command executable dir v = .error f := by
  cases v with
  | text line =>
    simp only [command, commandOf]
    by_cases hblank : Text.isAllBlank line = true
    · simp only [if_pos hblank]
      exact Or.inl ⟨[], fun executable dir => by rw [List.append_nil]⟩
    · simp only [if_neg hblank]
      cases Words.split line with
      | ok words => exact Or.inl ⟨words, fun _ _ => rfl⟩
      | error w => exact Or.inr ⟨.words w, fun _ => Fault.noConfusion, fun _ _ => rfl⟩
  | _ => exact Or.inr ⟨.misuse .operation, fun _ => Fault.noConfusion, fun _ _ => rfl⟩

end Compiler

/-- Nothing but a fault of the compiler is reported as one. -/
theorem Fault.kind_eq_compiler_iff {f : Fault} :
    f.kind = "CompilerError" ↔ ∃ cause, f = .compiler cause := by
  have herrno (e : Errno) : e.kind ≠ "CompilerError" := by cases e <;> decide
  have hmisuse (how : Misuse) : how.kind ≠ "CompilerError" := by cases how <;> decide
  constructor
  · intro h
    cases f with
    | compiler cause => exact ⟨cause, rfl⟩
    | os cause => exact absurd h (herrno cause.errno)
    | misuse how => exact absurd h (hmisuse how)
    | _ => simp [kind] at h
  · rintro ⟨cause, rfl⟩
    rfl

/-- A setting that is no path is no fault of a compiler. -/
theorem Setting.toPath_ne_compiler {x : Setting} {f : Fault} (h : x.toPath = .error f)
    (cause : CompilerFault) : f ≠ .compiler cause := by
  rintro rfl
  rw [toPath.eq_def] at h
  split at h <;> cases h

/-! ## A small package -/

/-- A compiler that writes one declaration file, and ends with an exit code. -/
def Launcher.writing (code : Int) (content : Bytes) : Launcher := fun l _ tree =>
  (.ok ⟨code, []⟩,
    tree.put ((Path.parse (l.words.getD 4 [])).parts ++ ["index.d.ts".toList]) (.file content))

theorem Launcher.writing_eq {dir : Path} (hdir : dir.Settled) (code : Int) (content : Bytes)
    (executable : Text) (options : List Text) (cwd : Path) (search : Text) (spot : Spot)
    (tree : Folder) :
    writing code content ⟨Compiler.baseCommand executable dir ++ options, cwd, search⟩ spot tree =
      (.ok ⟨code, []⟩, tree.put (dir.parts ++ ["index.d.ts".toList]) (.file content)) := by
  change (_, tree.put ((Path.parse dir.toText).parts ++ _) _) = _
  rw [Path.parse_toText fun x hx => (hdir.names x hx).1]

theorem Compiler.tidy_writing (v : Voice) (code : Int) (content : Bytes) :
    Compiler.Tidy { voice := v, launcher := Launcher.writing code content } := by
  refine ⟨fun dir options cwd search spot tree hdir ns hns => ?_,
    fun dir options cwd search spot tree hdir hfile => ?_⟩
  · simp only [Launcher.writing_eq hdir]
    exact Folder.look_put_outside _ fun h => hns ((List.prefix_append _ _).trans h)
  · simp only [Launcher.writing_eq hdir]
    rw [Folder.fileAt, Folder.look_put_outside]
    · exact hfile
    · intro h
      have hlength := h.length_le
      simp only [List.length_append, List.length_singleton] at hlength
      omega

namespace Sample

/-- A host that works in `/work` and makes its temporary directories in `/tmp`. -/
def host : Host :=
  { cwd := ⟨.root, ["work".toList]⟩
    home := ⟨.root, ["home".toList]⟩
    tool := ⟨.root, ["tool".toList]⟩
    temporary := ⟨.root, ["tmp".toList]⟩ }

/-- A generator whose compiler ends with an exit code. -/
def generator (code : Int) : Generator :=
  { voice := .named host "generator"
    compiler :=
      { voice := .named host "compiler"
        launcher := .writing code (Utf8.encode "export declare const a: number;\n".toList) } }

/-- The settings of the package, with a scratch directory or without. -/
def settings (tmp : Setting) : Settings := { root := .path ⟨.root, ["pkg".toList]⟩, tmp }

/-- A scratch directory in the package. -/
def scratch : Path := ⟨.root, ["pkg".toList, "scratch".toList]⟩

/-- The package, with a bundle and a scratch directory that an earlier run left behind. -/
def tree : Folder :=
  .dir "work".toList .nil (.dir "pkg".toList
    (.file "package.json".toList (Utf8.encode "\x7b\"name\": \"demo\"\x7d".toList) .data
      (.file "index.d.ts".toList (Utf8.encode "old".toList) .data
        (.dir "scratch".toList (.file "stale.d.ts".toList [] .data .nil) .nil))) .nil)

theorem takes_temporary : host.Takes host.temporary := by decide

theorem located_settings : (settings (.path scratch)).Located host :=
  ⟨⟨_, rfl, by decide⟩, Or.inr ⟨_, rfl, by decide⟩⟩

end Sample
end AmbientBundle
