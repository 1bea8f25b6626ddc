import AmbientBundle.CommandLine.Run
import AmbientBundle.Settings.Yaml
import AmbientBundle.Proofs.Settings.Project

/-!
# Where settings come from

Each option has what the command line gives for it, or else what the last entry of the project file
gives that means it, or else its default.  Loading is refused exactly if some entry of the project
file is invalid; the order of the entries does not matter if all of them are legible.

Two things stand outside of this rule.  An entry that is not legible ends loading, but not with a
fault of the settings, and entries that come after it are never looked at; so an invalid entry may
go unnoticed.  And a path of the command line loses a leading `./` before its first name is looked
at, so `./~x` is taken for the home directory of a user and not for the file `~x`.

How the text of a project file is read is up to the host, so all of this is said of an arbitrary
mapping, and of the file for whatever mapping it is read as.
-/

namespace AmbientBundle

/-! ## Paths that are taken as they are -/

/-- A path that a host can be asked for and that has no home directory in front. -/
def Path.Literal (p : Path) (host : Host) : Prop :=
  p.fault? host.halves = none ∧ (p.anchor = .here → ∀ n ∈ p.parts.head?, n.head? ≠ some '~')

theorem Host.Takes.literal {host : Host} {p : Path} (hp : host.Takes p) : p.Literal host :=
  ⟨hp.clean, fun hhere => by rw [hp.settled.anchor] at hhere; cases hhere⟩

/-- A settled path is absolute and normal already. -/
theorem Path.Settled.resolve_eq {p : Path} (hp : p.Settled) (cwd : Path) :
    Path.resolve cwd p = p := by
  have hup : upPart ∉ p.parts := fun hmem => (hp.names _ hmem).2 rfl
  rw [Path.resolve, Path.under, Path.join_of_isAbsolute hp.isAbsolute, Path.normal, hp.isAbsolute,
    Path.normalParts_of_no_up hup, ← hp.anchor]

namespace Settings

theorem absolute_of_literal {host : Host} {p : Path} (hp : p.Literal host) :
    absolute host p = .ok (Path.resolve host.cwd p) := by
  have hhome : Path.expandHome? host.home host.users p = some p := by
    rw [Path.expandHome?]
    split
    · next hanchor hparts =>
      have hfirst := hp.2 hanchor _ (by rw [hparts]; rfl)
      exact absurd rfl hfirst
    · rfl
  rw [absolute, hhome]
  simp only [resolved, Path.partFault?_eq_none_iff.2 hp.1]

/-! ## Filling the gaps -/

/-- What an option is set to. -/
def get (s : Settings) : Field → Setting
  | .root => s.root
  | .entry => .value s.entry
  | .tmp => s.tmp
  | .tsc => .value s.tsc
  | .logLevel => .value s.logLevel
  | .logFile => s.logFile
  | .output => .value s.output
  | .noAlias => .value s.noAlias
  | .customAlias => .value s.customAlias
  | .template => .value s.template
  | .force => .value s.force
  | .shake => .value s.shake
  | .testMode => .value s.testMode

/-- The defaults for a package directory. -/
def defaults (root : Path) : Settings := { root := .path root }

/-- A path is made absolute, and any other setting is left as it is. -/
def placed (host : Host) : Setting → Setting
  | .value v => .value v
  | .path p => .path (Path.resolve host.cwd p)

/-- Whether a setting is of the kind that an option takes: a path where one is wanted, or nothing
if it need not be given, and a value elsewhere. -/
def Suits (host : Host) (f : Field) (s : Setting) : Prop :=
  if f.isPath then (f ≠ .root ∧ s = .value .null) ∨ ∃ p, s = .path p ∧ p.Literal host
  else ∃ v, s = .value v

theorem Suits.of_isPath {host : Host} {f : Field} {s : Setting} (h : Suits host f s)
    (hpath : f.isPath = true) :
    (f ≠ .root ∧ s = .value .null) ∨ ∃ p, s = .path p ∧ p.Literal host := by
  rwa [Suits, if_pos hpath] at h

theorem Suits.of_not_isPath {host : Host} {f : Field} {s : Setting} (h : Suits host f s)
    (hpath : f.isPath = false) : ∃ v, s = .value v := by
  rwa [Suits, hpath, if_neg Bool.false_ne_true] at h

theorem optionalPath_of_suits {host : Host} {f : Field} (hpath : f.isPath = true)
    {given : Option Setting} (hgiven : ∀ s, given = some s → Suits host f s) :
    optionalPath host given = .ok ((given.map (placed host)).getD (.value .null)) := by
  cases given with
  | none => rfl
  | some s =>
    rcases (hgiven s rfl).of_isPath hpath with ⟨-, rfl⟩ | ⟨p, rfl, hp⟩
    · rfl
    · simp only [optionalPath, absoluteSetting, Setting.toPath, absolute_of_literal hp, Bind.bind,
        Except.bind]
      rfl

theorem valueOr_of_suits {host : Host} {d : Draft} {f : Field} (hpath : f.isPath = false)
    (hgiven : ∀ s, d f = some s → Suits host f s) (v : Value) :
    Setting.value (valueOr d f v) = ((d f).map (placed host)).getD (.value v) := by
  rw [valueOr]
  cases hd : d f with
  | none => rfl
  | some s =>
    obtain ⟨w, rfl⟩ := (hgiven s hd).of_not_isPath hpath
    rfl

/-- A draft with suitable settings is filled with defaults. -/
theorem ofDraft_of_suits (host : Host) {d : Draft} (hd : ∀ f s, d f = some s → Suits host f s)
    (hroot : d .root ≠ none) (root : Path) :
    ∃ s, ofDraft host d = .ok s ∧
      ∀ f, s.get f = ((d f).map (placed host)).getD ((defaults root).get f) := by
  obtain ⟨r, hr⟩ := Option.ne_none_iff_exists'.1 hroot
  obtain ⟨p, rfl, hp⟩ := ((hd .root r hr).of_isPath rfl).resolve_left fun h => h.1 rfl
  have habsolute : absoluteSetting host ((d .root).getD (.path host.cwd)) =
      .ok (.path (Path.resolve host.cwd p)) := by
    rw [hr]
    simp only [absoluteSetting, Option.getD_some, Setting.toPath, absolute_of_literal hp, Bind.bind,
      Except.bind]
    rfl
  rw [ofDraft, habsolute, optionalPath_of_suits rfl (hd .tmp),
    optionalPath_of_suits rfl (hd .logFile)]
  refine ⟨_, rfl, fun f => ?_⟩
  cases f with
  | root => rw [hr]; rfl
  | tmp => rfl
  | logFile => rfl
  | _ => exact valueOr_of_suits rfl (hd _) _

/-! ## Overrides -/

theorem ofName?_name (f : Field) : Field.ofName? f.name.toList = some f := by
  cases f <;> rfl

/-- Options that are given under their names replace what was given before. -/
theorem override_map {given : Field → Option Setting}
    (hgiven : ∀ f s, given f = some s → isGiven s = true) (fs : List Field) (d : Draft) :
    override d (fs.map fun f => (f.name.toList, (given f).getD (.value .null))) =
      .ok fun f => if f ∈ fs then (given f).or (d f) else d f := by
  induction fs generalizing d with
  | nil => simp [override]
  | cons f fs ih =>
    have hstep :
        override d ((f :: fs).map fun f => (f.name.toList, (given f).getD (.value .null))) =
        override (fun g => if g = f then (given g).or (d g) else d g)
          (fs.map fun f => (f.name.toList, (given f).getD (.value .null))) := by
      rw [List.map_cons, override, ofName?_name]
      cases hf : given f with
      | none =>
        rw [Option.getD_none, isGiven, if_neg Bool.false_ne_true]
        congr 1
        funext g
        split
        · next heq => rw [heq, hf]; rfl
        · rfl
      | some s =>
        rw [Option.getD_some, hgiven f s hf, if_pos rfl]
        simp only
        congr 1
        funext g
        rw [Draft.give]
        split
        · next heq => rw [heq, hf]; rfl
        · rfl
    rw [hstep, ih]
    congr 1
    funext g
    simp only [List.mem_cons]
    by_cases heq : g = f
    · rw [if_pos heq, if_pos (Or.inl heq)]
      split
      · cases given g <;> rfl
      · rfl
    · simp only [heq, if_false, false_or]

end Settings

namespace CommandLine

/-- What an option that takes a text gives. -/
def textGiven? (g : Option Given) : Option Setting := g.map fun g => .value g.value

/-- What an option that takes a path gives; an empty text gives nothing. -/
def pathGiven? : Option Given → Option Setting
  | some (.text (c :: t)) => some (.path (Path.parse (c :: t)))
  | _ => none

/-- What a flag gives. -/
def flagGiven? (b : Bool) : Option Setting := if b then some (.value (.bool true)) else none

/-- What a command line gives for an option. -/
def Arguments.given? (a : Arguments) : Field → Option Setting
  | .root => none
  | .entry => textGiven? a.entry
  | .tmp => pathGiven? a.tmp
  | .tsc => textGiven? a.tsc
  | .logLevel =>
      if a.verbose then some (.value (.text "debug".toList)) else textGiven? a.logLevel
  | .logFile => pathGiven? a.logFile
  | .output => textGiven? a.output
  | .noAlias => flagGiven? a.noAlias
  | .customAlias => textGiven? a.customAlias
  | .template => textGiven? a.template
  | .force => flagGiven? a.force
  | .shake => textGiven? a.shake
  | .testMode => flagGiven? a.testMode

/-- The options that a command line can give. -/
def givable : List Field :=
  [.entry, .tmp, .tsc, .logLevel, .logFile, .output, .noAlias, .customAlias, .template, .force,
    .shake, .testMode]

theorem overrides_eq (a : Arguments) :
    a.overrides = givable.map fun f => (f.name.toList, (a.given? f).getD (.value .null)) := by
  have htext (g : Option Given) : valueSetting g = (textGiven? g).getD (.value .null) := by
    cases g <;> rfl
  have hpath (g : Option Given) : pathSetting g = (pathGiven? g).getD (.value .null) := by
    cases g with
    | none => rfl
    | some g =>
      cases g with
      | nothing => rfl
      | text t => cases t <;> rfl
  have hflag (b : Bool) : flagSetting b = (flagGiven? b).getD (.value .null) := by
    cases b <;> rfl
  have hlevel : valueSetting (if a.verbose then some (.text "debug".toList) else a.logLevel) =
      (a.given? .logLevel).getD (.value .null) := by
    rw [Arguments.given?]
    split
    · rfl
    · exact htext _
  simp only [Arguments.overrides, hlevel, htext, hpath, hflag]
  rfl

/-- A command line gives paths for options that are paths, and other values than nothing for the
others. -/
theorem given?_cases {a : Arguments} {f : Field} {s : Setting} (h : a.given? f = some s) :
    (f.isPath = true ∧ ∃ t, s = .path (Path.parse t)) ∨
      (f.isPath = false ∧ ∃ v, s = .value v ∧ v ≠ .null) := by
  have htext {g : Option Given} (h : textGiven? g = some s) : ∃ v, s = .value v ∧ v ≠ .null := by
    obtain ⟨g, -, rfl⟩ := Option.map_eq_some_iff.1 h
    cases g with
    | text t => exact ⟨_, rfl, fun h => nomatch h⟩
    | nothing => exact ⟨_, rfl, fun h => nomatch h⟩
  have hpath {g : Option Given} (h : pathGiven? g = some s) : ∃ t, s = .path (Path.parse t) := by
    rw [pathGiven?.eq_def] at h
    split at h
    · exact ⟨_, (Option.some.inj h).symm⟩
    · cases h
  have hflag {b : Bool} (h : flagGiven? b = some s) : ∃ v, s = .value v ∧ v ≠ .null := by
    cases b with
    | false => cases h
    | true => exact ⟨_, (Option.some.inj h).symm, fun h => nomatch h⟩
  cases f with
  | root => cases h
  | tmp => exact Or.inl ⟨rfl, hpath h⟩
  | logFile => exact Or.inl ⟨rfl, hpath h⟩
  | noAlias => exact Or.inr ⟨rfl, hflag h⟩
  | force => exact Or.inr ⟨rfl, hflag h⟩
  | testMode => exact Or.inr ⟨rfl, hflag h⟩
  | logLevel =>
    rw [Arguments.given?] at h
    split at h
    · exact Or.inr ⟨rfl, _, (Option.some.inj h).symm, fun h => nomatch h⟩
    · exact Or.inr ⟨rfl, htext h⟩
  | _ => exact Or.inr ⟨rfl, htext h⟩

/-- What a command line gives goes on top of a draft. -/
theorem override_overrides (a : Arguments) (d : Draft) :
    Settings.override d a.overrides = .ok fun f => (a.given? f).or (d f) := by
  rw [overrides_eq, Settings.override_map ?_]
  · congr 1
    funext f
    cases f <;> rfl
  · intro f s h
    rcases given?_cases h with ⟨-, p, rfl⟩ | ⟨-, v, rfl, hv⟩
    · rfl
    · cases v with
      | null => exact absurd rfl hv
      | _ => rfl

end CommandLine

/-! ## Loading -/

namespace Settings

section

variable {host : Host} {root : Path} {f : Field} {v : Value}

theorem takes_resolve (hcwd : host.Takes host.cwd) {p : Path} (hp : ∀ x ∈ p.parts, Path.Proper x)
    (hclean : p.fault? host.halves = none) : host.Takes (Path.resolve host.cwd p) :=
  takes_resolved (fun x hx => (hcwd.settled.names x hx).1) hcwd.clean
    (Path.isAbsolute_join hcwd.settled.isAbsolute p) hp
    (by rw [resolved, Path.partFault?_eq_none_iff.2 hclean])

theorem takes_dir (hcwd : host.Takes host.cwd) {t : Text} (hdir : (Path.parse t).Literal host) :
    host.Takes (Path.resolve host.cwd (Path.parse t)) :=
  takes_resolve hcwd (fun _ => Path.proper_of_mem_parse) hdir.1

theorem takes_placeIn (hcwd : host.Takes host.cwd) (hroot : host.Takes root)
    (hclean : Text.fault? host.halves (v.spelled host.halves) = none) :
    host.Takes (placeIn host root v) := by
  refine takes_resolve hcwd (fun x hx => ?_)
    ((Path.fault?_join hroot.clean).2 (Path.fault?_parse.2 hclean))
  rw [Path.join] at hx
  split at hx
  · rcases List.mem_append.1 hx with hx | hx
    · exact (hroot.settled.names x hx).1
    · exact Path.proper_of_mem_parse hx
  · exact Path.proper_of_mem_parse hx

/-- What a project file gives for a path is absolute and normal. -/
theorem coerced_path (hcwd : host.Takes host.cwd) (hroot : host.Takes root)
    (hpath : f.isPath = true) (hread : f.canRead host.halves v = true) :
    (f ≠ .root ∧ coerced host root f v = .value .null) ∨
      ∃ p, coerced host root f v = .path p ∧ host.Takes p := by
  have hplace (hreads : f.readsText v = true) : host.Takes (placeIn host root v) := by
    rw [Field.canRead, hreads, hpath] at hread
    exact takes_placeIn hcwd hroot (by simpa using (Bool.and_eq_true_iff.1 hread).2)
  cases f with
  | root => exact Or.inr ⟨_, rfl, hplace rfl⟩
  | tmp =>
    rw [coerced]
    cases hholds : v.holds with
    | true => exact Or.inr ⟨_, rfl, hplace hholds⟩
    | false => exact Or.inl ⟨by decide, rfl⟩
  | logFile =>
    rw [coerced]
    cases hholds : v.holds with
    | true => exact Or.inr ⟨_, rfl, hplace hholds⟩
    | false => exact Or.inl ⟨by decide, rfl⟩
  | _ => cases hpath

theorem coerced_value (host : Host) (root : Path) (v : Value) (hpath : f.isPath = false) :
    ∃ w, coerced host root f v = .value w := by
  cases f with
  | root => cases hpath
  | tmp => cases hpath
  | logFile => cases hpath
  | shake =>
    cases v with
    | bool b => cases b <;> exact ⟨_, rfl⟩
    | _ => exact ⟨_, rfl⟩
  | _ => exact ⟨_, rfl⟩

theorem suits_coerced (hcwd : host.Takes host.cwd) (hroot : host.Takes root)
    (hread : f.canRead host.halves v = true) : Suits host f (coerced host root f v) := by
  rw [Suits]
  split
  · next hpath =>
    rcases coerced_path hcwd hroot hpath hread with h | ⟨p, heq, hp⟩
    · exact Or.inl h
    · exact Or.inr ⟨p, heq, hp.literal⟩
  · next hpath => exact coerced_value _ _ _ (Bool.eq_false_iff.2 hpath)

theorem placed_coerced (hcwd : host.Takes host.cwd) (hroot : host.Takes root)
    (hread : f.canRead host.halves v = true) :
    placed host (coerced host root f v) = coerced host root f v := by
  cases hpath : f.isPath with
  | true =>
    rcases coerced_path hcwd hroot hpath hread with ⟨-, heq⟩ | ⟨p, heq, hp⟩
    · rw [heq]
      rfl
    · rw [heq, placed, hp.settled.resolve_eq]
  | false =>
    obtain ⟨w, heq⟩ := coerced_value host root v hpath
    rw [heq]
    rfl

end

/-- What an option is set to: what overrides give for it, or else what the last entry of the project
file gives that means it, or else its default. -/
def chosen (host : Host) (root : Path) (given : Field → Option Setting)
    (data : List (Value × Value)) (f : Field) : Setting :=
  match given f with
  | some s => placed host s
  | none =>
      match lastFor host data f with
      | some v => coerced host root f v
      | none => (defaults root).get f

section

variable {host : Host} {root : Path} {given : Field → Option Setting} {data : List (Value × Value)}

theorem exists_mem_of_lastFor {f : Field} {v : Value} (h : lastFor host data f = some v) :
    ∃ k, (k, v) ∈ data ∧ meant? host (k, v) = some f := by
  obtain ⟨⟨k, w⟩, hmem, he⟩ := List.mem_filterMap.1 (List.mem_of_getLast? h)
  split at he
  · next hkey =>
    cases he
    exact ⟨k, hmem, hkey⟩
  · cases he

theorem canRead_of_lastFor {f : Field} {v : Value}
    (hlegible : ∀ e ∈ data, isLegible host e = true) (h : lastFor host data f = some v) :
    f.canRead host.halves v = true := by
  obtain ⟨k, hmem, hkey⟩ := exists_mem_of_lastFor h
  have he := hlegible _ hmem
  rw [isLegible, hkey, Bool.and_eq_true] at he
  exact he.2

/-- The draft of all that is given: the package directory is given last, and only if nothing else
gives it. -/
def drafted (host : Host) (root : Path) (given : Field → Option Setting)
    (data : List (Value × Value)) : Draft :=
  fun f =>
    match given f with
    | some s => some s
    | none =>
        match lastFor host data f with
        | some v => some (coerced host root f v)
        | none => if f = .root then some (.path root) else none

theorem give_root (d : Draft) (root : Path) :
    (if (d .root).isNone then d.give .root (.path root) else d) =
      fun f => (d f).or (if f = .root then some (.path root) else none) := by
  funext f
  by_cases hf : f = .root
  · subst hf
    cases h : d .root with
    | none => simp [Draft.give]
    | some s => simp [h]
  · rw [if_neg hf, Option.or_none]
    split
    · rw [Draft.give, if_neg hf]
    · rfl

theorem drafted_root_ne_none (host : Host) (root : Path) (given : Field → Option Setting)
    (data : List (Value × Value)) : drafted host root given data .root ≠ none := by
  rw [drafted]
  cases given .root with
  | some s => exact Option.some_ne_none _
  | none => cases lastFor host data .root <;> exact Option.some_ne_none _

theorem suits_drafted (hcwd : host.Takes host.cwd) (hroot : host.Takes root)
    (hlegible : ∀ e ∈ data, isLegible host e = true)
    (hgiven : ∀ f s, given f = some s → Suits host f s)
    {f : Field} {s : Setting} (h : drafted host root given data f = some s) : Suits host f s := by
  rw [drafted] at h
  cases hg : given f with
  | some s' =>
    rw [hg] at h
    exact hgiven f s (hg.trans h)
  | none =>
    rw [hg] at h
    cases hlast : lastFor host data f with
    | some v =>
      rw [hlast] at h
      exact Option.some.inj h ▸ suits_coerced hcwd hroot (canRead_of_lastFor hlegible hlast)
    | none =>
      rw [hlast] at h
      simp only at h
      split at h
      · next hf =>
        subst hf
        exact Or.inr ⟨root, (Option.some.inj h).symm, hroot.literal⟩
      · cases h

/-- Making the paths of a draft absolute changes those of overrides only. -/
theorem chosen_eq (hcwd : host.Takes host.cwd) (hroot : host.Takes root)
    (hlegible : ∀ e ∈ data, isLegible host e = true) (f : Field) :
    ((drafted host root given data f).map (placed host)).getD ((defaults root).get f) =
      chosen host root given data f := by
  rw [drafted, chosen]
  cases given f with
  | some s => rfl
  | none =>
    cases hlast : lastFor host data f with
    | some v => exact placed_coerced hcwd hroot (canRead_of_lastFor hlegible hlast)
    | none =>
      simp only
      split
      · next hf =>
        subst hf
        exact congrArg Setting.path (hroot.settled.resolve_eq host.cwd)
      · rfl

end

section

variable {host : Host} {root : Path} {overrides : Overrides} {data : List (Value × Value)}

/-- If every entry is sound, the gaps are filled, and each option is set to what was chosen. -/
theorem ofEntries_of_sound (hcwd : host.Takes host.cwd) (hroot : host.Takes root)
    (hsound : ∀ e ∈ data, isSound host e = true) {given : Field → Option Setting}
    (hover : ∀ d, override d overrides = .ok fun f => (given f).or (d f))
    (hgiven : ∀ f s, given f = some s → Suits host f s) :
    ∃ s, ofEntries host root data overrides = .ok s ∧
      ∀ f, s.get f = chosen host root given data f := by
  have hlegible : ∀ e ∈ data, isLegible host e = true := fun e he => (isSound_iff.1 (hsound e he)).1
  obtain ⟨d, hd, hget⟩ := coerce_of_sound host hroot.clean hsound Draft.empty
  have hcoerce : coerce host root data = .ok d := hd
  have hfilled := give_root (fun f => (given f).or (d f)) root
  have hall : (fun f => ((given f).or (d f)).or (if f = .root then some (.path root) else none)) =
      drafted host root given data := by
    funext f
    rw [hget, drafted]
    cases given f with
    | some s => rfl
    | none => cases lastFor host data f <;> rfl
  obtain ⟨s, hs, hsget⟩ := ofDraft_of_suits host
    (fun f s => suits_drafted hcwd hroot hlegible hgiven) (drafted_root_ne_none _ _ _ _) root
  rw [ofEntries, hcoerce]
  simp only [hover]
  rw [hfilled, hall]
  exact ⟨s, hs, fun f => (hsget f).trans (chosen_eq hcwd hroot hlegible f)⟩

/-- Settings are refused exactly if taking the mapping is. -/
theorem ofEntries_refused_iff (hcwd : host.Takes host.cwd) (hroot : host.Takes root)
    {given : Field → Option Setting}
    (hover : ∀ d, override d overrides = .ok fun f => (given f).or (d f))
    (hgiven : ∀ f s, given f = some s → Suits host f s) :
    (∃ cause, ofEntries host root data overrides = .error (.settings cause)) ↔
      ∃ cause, coerce host root data = .error (.settings cause) := by
  cases hcoerce : coerce host root data with
  | error e =>
    simp only [ofEntries, hcoerce, Except.error.injEq]
  | ok d =>
    obtain ⟨s, hs, -⟩ := ofEntries_of_sound hcwd hroot (sound_of_coerce hroot.clean hcoerce)
      hover hgiven
    rw [hs]
    exact ⟨fun ⟨_, h⟩ => (nomatch h), fun ⟨_, h⟩ => (nomatch h)⟩

/-- If a mapping gives settings, every entry of it is sound. -/
theorem sound_of_ofEntries (hroot : host.Takes root) {s : Settings}
    (h : ofEntries host root data overrides = .ok s) : ∀ e ∈ data, isSound host e = true := by
  cases hcoerce : coerce host root data with
  | error e =>
    rw [ofEntries, hcoerce] at h
    cases h
  | ok d => exact sound_of_coerce hroot.clean hcoerce

/-- The mapping of a project file is what its reader takes its text for, unless that is blank. -/
theorem projectData_of_reader {tree : Folder} {content : Bytes} {raw : Text}
    (hread : tree.readFile host.spot (root.child projectFile.toList) = .ok content)
    (hdecode : Utf8.decode content = some raw) (hblank : Text.isAllBlank (Text.asRead raw) = false)
    (hreader : host.reader (Text.asRead raw) = .ok (.map data)) :
    projectData host tree root = .ok data := by
  have hentries : readEntries host content = .ok data := by
    simp only [readEntries, hdecode, hblank, hreader, Bool.false_eq_true, if_false]
    rfl
  -- A file that can be read is there.
  have hfound : ∃ found, tree.stat host.spot (root.child projectFile.toList) = .ok found := by
    cases hstat : tree.stat host.spot (root.child projectFile.toList) with
    | error e =>
      rw [Folder.readFile, hstat] at hread
      cases hread
    | ok found => exact ⟨found, rfl⟩
  obtain ⟨found, hfound⟩ := hfound
  simp only [projectData, hfound, hread, hentries]

/-- What is loaded is what the mapping of the project file gives. -/
theorem load_of_projectData {dir : Path} (hdir : dir.Literal host) {tree : Folder}
    (hdata : projectData host tree (Path.resolve host.cwd dir) = .ok data) :
    load host tree dir overrides = ofEntries host (Path.resolve host.cwd dir) data overrides := by
  rw [load, absolute_of_literal hdir]
  simp only [hdata]

end

/-! ## Loading with a command line -/

section

variable {host : Host} {root : Path} {a : CommandLine.Arguments} {t : Text}
  {data : List (Value × Value)}

theorem suits_given? (hpaths : ∀ f p, a.given? f = some (.path p) → p.Literal host) {f : Field}
    {s : Setting} (h : a.given? f = some s) : Suits host f s := by
  rw [Suits]
  rcases CommandLine.given?_cases h with ⟨hpath, u, rfl⟩ | ⟨hpath, v, rfl, -⟩
  · rw [if_pos hpath]
    exact Or.inr ⟨_, rfl, hpaths f _ h⟩
  · rw [hpath, if_neg Bool.false_ne_true]
    exact ⟨v, rfl⟩

/-- The paths that are chosen are absolute and normal. -/
theorem takes_chosen (hcwd : host.Takes host.cwd) (hroot : host.Takes root)
    (hlegible : ∀ e ∈ data, isLegible host e = true)
    (hpaths : ∀ f p, a.given? f = some (.path p) → p.Literal host) {f : Field}
    (hpath : f.isPath = true) :
    (f ≠ .root ∧ chosen host root a.given? data f = .value .null) ∨
      ∃ p, chosen host root a.given? data f = .path p ∧ host.Takes p := by
  rw [chosen]
  cases hgiven : a.given? f with
  | some s =>
    rcases CommandLine.given?_cases hgiven with ⟨-, u, rfl⟩ | ⟨hvalue, -⟩
    · exact Or.inr ⟨_, rfl, takes_resolve hcwd (fun x => Path.proper_of_mem_parse)
        (hpaths f _ hgiven).1⟩
    · rw [hpath] at hvalue
      cases hvalue
  | none =>
    cases hlast : lastFor host data f with
    | some v => exact coerced_path hcwd hroot hpath (canRead_of_lastFor hlegible hlast)
    | none =>
      cases f with
      | root => exact Or.inr ⟨root, rfl, hroot⟩
      | tmp => exact Or.inl ⟨fun h => (nomatch h), rfl⟩
      | logFile => exact Or.inl ⟨fun h => (nomatch h), rfl⟩
      | _ => cases hpath

/-- The command line comes first, then the last entry of the mapping for an option in any spelling,
then its default.  Settings are refused exactly if some entry is invalid and no entry up to it is
illegible; if every entry is legible, it does not matter where the invalid one stands.  If every
entry is sound, each option is set to what was chosen, and the paths are absolute and normal.
Whatever a project file is read as, this is how settings are loaded from it. -/
theorem load_precedence (hcwd : host.Takes host.cwd) (hdir : (Path.parse t).Literal host)
    (hpaths : ∀ f p, a.given? f = some (.path p) → p.Literal host) (data : List (Value × Value)) :
    ((∃ cause, ofEntries host (Path.resolve host.cwd (Path.parse t)) data a.overrides =
          .error (.settings cause)) ↔
      ∃ front e back, data = front ++ e :: back ∧ (∀ e' ∈ front, isLegible host e' = true) ∧
        isLegible host e = true ∧ isValid host e = false) ∧
    ((∀ e ∈ data, isLegible host e = true) →
      ((∃ cause, ofEntries host (Path.resolve host.cwd (Path.parse t)) data a.overrides =
          .error (.settings cause)) ↔
        ∃ e ∈ data, isValid host e = false)) ∧
    ((∀ e ∈ data, isSound host e = true) →
      ∃ s, ofEntries host (Path.resolve host.cwd (Path.parse t)) data a.overrides = .ok s ∧
        (∀ f, s.get f = chosen host (Path.resolve host.cwd (Path.parse t)) a.given? data f) ∧
        ∀ f, f.isPath = true → (f ≠ .root ∧ s.get f = .value .null) ∨
          ∃ p, s.get f = .path p ∧ host.Takes p) ∧
    ∀ tree, projectData host tree (Path.resolve host.cwd (Path.parse t)) = .ok data →
      load host tree (Path.parse t) a.overrides =
        ofEntries host (Path.resolve host.cwd (Path.parse t)) data a.overrides := by
  have hroot := takes_dir hcwd hdir
  have hoverrides := CommandLine.override_overrides a
  have hgiven (f : Field) (s : Setting) (h : a.given? f = some s) : Suits host f s :=
    suits_given? hpaths h
  have hrefused := (ofEntries_refused_iff hcwd hroot hoverrides hgiven).trans
    (coerce_refused_iff host hroot.clean data)
  refine ⟨hrefused, fun hlegible => hrefused.trans ⟨?_, ?_⟩, fun hsound => ?_,
    fun tree hdata => load_of_projectData hdir hdata⟩
  · rintro ⟨front, e, back, rfl, -, -, hinvalid⟩
    exact ⟨e, by simp, hinvalid⟩
  · rintro ⟨e, he, hinvalid⟩
    obtain ⟨front, back, rfl⟩ := List.append_of_mem he
    exact ⟨front, e, back, rfl, fun e' he' => hlegible e' (by simp [he']), hlegible e he, hinvalid⟩
  · obtain ⟨s, hs, hget⟩ := ofEntries_of_sound hcwd hroot hsound hoverrides hgiven
    refine ⟨s, hs, hget, fun f hpath => ?_⟩
    rw [hget]
    exact takes_chosen hcwd hroot (fun e he => (isSound_iff.1 (hsound e he)).1) hpaths hpath

end

/-! ## A package with a project file -/

/-- A package `/pkg` with a project file. -/
def packageWith (lines : Text) : Folder :=
  .dir "pkg".toList (.file projectFile.toList (Utf8.encode lines) .data .nil) .nil

/-- A host that reads every project file as one mapping. -/
def readingAs (data : List (Value × Value)) : Host :=
  { Sample.host with reader := fun _ => .ok (.map data) }

theorem takes_readingAs (data : List (Value × Value)) :
    (readingAs data).Takes (readingAs data).cwd :=
  ⟨(by decide : Sample.host.cwd.Settled), (by decide : Sample.host.cwd.fault? .spare = none)⟩

theorem literal_readingAs (data : List (Value × Value)) :
    (Path.parse "/pkg".toList).Literal (readingAs data) :=
  ⟨(by decide : (Path.parse "/pkg".toList).fault? .spare = none), fun h => nomatch h⟩

/-- A project file that gives the level twice, in two spellings, and the output file once. -/
def twoSpellings : Text := "log-level: Debug\noutput: old.d.ts\nlogLevel: Warn\n".toList

/-- The mapping of that project file. -/
def twoLevels : List (Value × Value) :=
  [(.text "log-level".toList, .text "Debug".toList),
    (.text "output".toList, .text "old.d.ts".toList),
    (.text "logLevel".toList, .text "Warn".toList)]

theorem projectData_readingAs (data : List (Value × Value)) :
    projectData (readingAs data) (packageWith twoSpellings)
      (Path.resolve (readingAs data).cwd (Path.parse "/pkg".toList)) = .ok data :=
  projectData_of_reader
    (by decide +kernel : (packageWith twoSpellings).readFile Sample.host.spot
      ((Path.mk .root ["pkg".toList]).child projectFile.toList) = .ok (Utf8.encode twoSpellings))
    (by decide +kernel : Utf8.decode (Utf8.encode twoSpellings) = some twoSpellings)
    (by decide +kernel) rfl

example :
    (yaml .spare twoSpellings).toOption.bind (fun v => (entriesOf v).toOption.map
      (List.map fun e => (e.1.plainText?, e.2.plainText?))) =
    some (twoLevels.map fun e => (e.1.plainText?, e.2.plainText?)) := by
  decide +kernel

/-- A command line that gives the output file. -/
def withOutput : CommandLine.Arguments := { output := some (.text "new.d.ts".toList) }

theorem literal_withOutput {host : Host} (f : Field) (p : Path)
    (h : withOutput.given? f = some (.path p)) : p.Literal host := by
  cases f <;> cases h

/-- A key that is no option, between two entries that are sound. -/
def unknownBetween : List (Value × Value) :=
  [(.text "output".toList, .text "old.d.ts".toList), (.text "colour".toList, .text "red".toList),
    (.text "force".toList, .bool true)]

/-- The command line wins over the project file, and the last spelling over the first one.  A key
that is no option is refused wherever it stands. -/
theorem load_precedence_twoSpellings :
    (∃ s, load (readingAs twoLevels) (packageWith twoSpellings) (Path.parse "/pkg".toList)
        withOutput.overrides = .ok s ∧
      s.get .output = .value (.text "new.d.ts".toList) ∧
      s.get .logLevel = .value (.text "warn".toList) ∧
      s.get .entry = .value (.text "index.ts".toList)) ∧
    ∃ cause, load (readingAs unknownBetween) (packageWith twoSpellings) (Path.parse "/pkg".toList)
        withOutput.overrides = .error (.settings cause) := by
  constructor
  · obtain ⟨-, -, hloaded, hfile⟩ := load_precedence (takes_readingAs twoLevels)
      (literal_readingAs twoLevels) literal_withOutput twoLevels
    obtain ⟨s, hs, hget, -⟩ := hloaded (List.all_eq_true.1 (by decide +kernel))
    refine ⟨s, (hfile _ (projectData_readingAs _)).trans hs, by rw [hget]; rfl, ?_, ?_⟩
    · rw [hget]
      exact congrArg (fun t => Setting.value (.text t))
        (by decide : Text.lower "Warn".toList = "warn".toList)
    · rw [hget]
      rfl
  · obtain ⟨-, hrefused, -, hfile⟩ := load_precedence (takes_readingAs unknownBetween)
      (literal_readingAs unknownBetween) literal_withOutput unknownBetween
    rw [hfile _ (projectData_readingAs _)]
    exact (hrefused (List.all_eq_true.1 (by decide +kernel))).2
      ⟨_, List.mem_cons_of_mem _ List.mem_cons_self, by decide⟩

/-- A mapping with a whole number of more digits than can be written, and a key that is no option
after it. -/
def overlong : List (Value × Value) :=
  [(.text "entry".toList, .int (.ofNat (Nat.pow 16 3600))),
    (.text "colour".toList, .text "red".toList)]

/-- A mapping whose only value is half a pair of codes, given for a path. -/
def loosePath : List (Value × Value) := [(.text "tmp".toList, .text [Halves.spare.ofCode 0xd800])]

/-- A command line that gives a path whose first name looks like the home directory of a user. -/
def dottedHome : CommandLine.Arguments := { tmp := some (.text "./~nobody".toList) }

/-- An entry that is not legible hides an invalid entry after it, and a path that is half a pair of
codes is accepted but gives no settings.  A path that does not start with `~` as it is written may
still be taken for the home directory of a user. -/
theorem precedence_limits :
    ((∃ e ∈ overlong, isValid Sample.host e = false) ∧
      ∃ f, f.IsMisuse ∧ ofEntries Sample.host ⟨.root, ["pkg".toList]⟩ overlong [] = .error f) ∧
    ((∀ e ∈ loosePath, isValid Sample.host e = true) ∧
      ∃ f, f.IsMisuse ∧ ofEntries Sample.host ⟨.root, ["pkg".toList]⟩ loosePath [] = .error f) ∧
    load Sample.host .nil (Path.parse "/pkg".toList) dottedHome.overrides =
      .error (.misuse .home) := by
  have hunread {data : List (Value × Value)} {e : Value × Value} {back : List (Value × Value)}
      (hdata : data = e :: back) (he : isLegible Sample.host e = false) :
      ∃ f, f.IsMisuse ∧ ofEntries Sample.host ⟨.root, ["pkg".toList]⟩ data [] = .error f := by
    subst hdata
    obtain ⟨f, hf, hfails⟩ := (coerce_of_flaw Sample.host
      (by decide : (Path.mk .root ["pkg".toList]).fault? .spare = none)
      (fun e (he : e ∈ []) => absurd he List.not_mem_nil) (by rw [isSound, he]; rfl) back
      Draft.empty).2 he
    rw [List.nil_append] at hfails
    exact ⟨f, hf, by rw [ofEntries, coerce, hfails]⟩
  refine ⟨⟨⟨_, List.mem_cons_of_mem _ List.mem_cons_self, by decide⟩, hunread rfl ?_⟩,
    ⟨List.all_eq_true.1 (by decide), hunread rfl (by decide +kernel)⟩, ?_⟩
  · decide +kernel
  · with_unfolding_all rfl

end Settings
end AmbientBundle
