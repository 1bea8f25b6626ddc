import AmbientBundle.Proofs.Report
import AmbientBundle.Proofs.Settings.Precedence

/-!
# Settings that a run can use

An option is declared to hold a path, a truth value or a text, and five options need not hold
anything (`Field.Admits`).  Settings are *typed* if every option holds what it is declared to hold.

A mapping is refused over a flag that is no truth value and over a level that is not known.
It is not refused over a text option whose value stands for no text, such as a date or a sequence:
the option is then set to nothing.  Three text options have to hold a text all the same.  Without
one, the output file has no path and there is no command for the compiler, which comes out when a
run asks for them (`outputPath_mistyped_iff`, `Compiler.command_mistyped_iff`); only the policy for
shaking can do without (`gives_policyOf`).  So not every mapping is either refused or usable.
-/

namespace AmbientBundle

namespace Field

/-- Whether an option need not hold anything. -/
def isOptional : Field → Bool
  | .entry => true
  | .tmp => true
  | .logFile => true
  | .customAlias => true
  | .template => true
  | _ => false

/-- Whether an option has to hold a text. -/
def needsText : Field → Bool
  | .tsc => true
  | .logLevel => true
  | .output => true
  | .shake => true
  | _ => false

/-- Whether a setting is of the kind that an option is declared to hold. -/
def Admits (f : Field) (s : Setting) : Prop :=
  (f.isOptional = true ∧ s = .value .null) ∨
    if f.isPath then ∃ p, s = .path p
    else if f.isFlag then ∃ b, s = .value (.bool b)
    else ∃ t, s = .value (.text t)

theorem Admits.path {f : Field} (hpath : f.isPath = true) (p : Path) : f.Admits (.path p) :=
  Or.inr (by rw [if_pos hpath]; exact ⟨p, rfl⟩)

theorem admits_of_needsText {f : Field} (hneeds : f.needsText = true) {s : Setting} :
    f.Admits s ↔ ∃ t, s = .value (.text t) := by
  have hkind : f.isOptional = false ∧ f.isPath = false ∧ f.isFlag = false := by
    cases f <;> first | exact ⟨rfl, rfl, rfl⟩ | cases hneeds
  obtain ⟨hopt, hpath, hflag⟩ := hkind
  simp only [Admits, hopt, hpath, hflag, Bool.false_eq_true, false_and, false_or, if_false]

end Field

/-- Whether every option holds what it is declared to hold. -/
def Settings.Typed (s : Settings) : Prop := ∀ f : Field, f.Admits (s.get f)

/-- Whether a fault says that a value is of the wrong type or lacks the operation asked of it. -/
def Fault.isMistyped : Fault → Bool
  | .misuse .type => true
  | .misuse .operation => true
  | _ => false

/-! ## Using settings -/

/-- The bundle has a place unless the output file is no text. -/
theorem Settings.outputPath_mistyped_iff {s : Settings} {root : Path} (hroot : s.root = .path root)
    (host : Host) :
    (∃ e, s.outputPath host = .error e ∧ e.isMistyped = true) ↔ ¬ ∃ t, s.output = .text t := by
  rw [outputPath, hroot]
  cases s.output with
  | text t =>
    simp only [resolved]
    refine ⟨?_, fun h => absurd ⟨t, rfl⟩ h⟩
    rintro ⟨e, he, hmistyped⟩
    split at he
    · next f hfault =>
      -- A path that cannot be asked for is no fault of types.
      cases he
      rcases Path.eq_of_partFault? hfault with rfl | rfl <;> cases hmistyped
    · cases he
  | _ =>
    refine ⟨fun _ => ?_, fun _ => ⟨_, rfl, rfl⟩⟩
    rintro ⟨t, ht⟩
    cases ht

/-- The compiler has a command unless its options are no text, or no words can be cut from them. -/
theorem Compiler.command_mistyped_iff (executable : Text) (dir : Path) (options : Value) :
    (∃ e, command executable dir options = .error e ∧ e.isMistyped = true) ↔
      ¬ ∃ t, options = .text t := by
  cases options with
  | text t =>
    refine ⟨?_, fun h => absurd ⟨t, rfl⟩ h⟩
    rintro ⟨e, he, hmistyped⟩
    rw [command] at he
    split at he
    · cases he
    · cases he
      cases hmistyped
  | _ =>
    refine ⟨fun _ => ?_, fun _ => ⟨_, rfl, rfl⟩⟩
    rintro ⟨t, ht⟩
    cases ht

/-- There is a policy for every value, whatever the session. -/
theorem Settings.gives_policyOf (voice : Voice) (v : Value) :
    ∃ policy, (policyOf voice v).Gives (.ok policy) := by
  rw [policyOf]
  split
  · exact ⟨_, .pure _⟩
  · exact ⟨_, .bind (.say _ _ _) (.pure _)⟩

/-! ## Loading settings -/

namespace Settings

section

variable {host : Host} {root : Path} {f : Field} {v : Value} {data : List (Value × Value)}
  {s : Settings}

theorem admits_defaults (root : Path) (f : Field) : f.Admits ((defaults root).get f) := by
  cases f with
  | root => exact .path rfl root
  | entry => exact Or.inr ⟨_, rfl⟩
  | tsc => exact Or.inr ⟨_, rfl⟩
  | logLevel => exact Or.inr ⟨_, rfl⟩
  | output => exact Or.inr ⟨_, rfl⟩
  | shake => exact Or.inr ⟨_, rfl⟩
  | noAlias => exact Or.inr ⟨_, rfl⟩
  | force => exact Or.inr ⟨_, rfl⟩
  | testMode => exact Or.inr ⟨_, rfl⟩
  | tmp => exact Or.inl ⟨rfl, rfl⟩
  | logFile => exact Or.inl ⟨rfl, rfl⟩
  | customAlias => exact Or.inl ⟨rfl, rfl⟩
  | template => exact Or.inl ⟨rfl, rfl⟩

theorem ofText?_eq_text_iff {text : Option Text} :
    (∃ t, Setting.value (Value.ofText? text) = .value (.text t)) ↔ text.isSome = true := by
  cases text with
  | none => exact ⟨fun ⟨_, h⟩ => (nomatch h), fun h => nomatch h⟩
  | some t => exact ⟨fun _ => rfl, fun _ => ⟨t, rfl⟩⟩

/-- An option holds what it is declared to hold, unless it has to hold a text and its value stands
for none. -/
theorem admits_coerced_iff (haccept : f.accepts v = true) :
    f.Admits (coerced host root f v) ↔ (f.needsText = true → v.plainText?.isSome = true) := by
  have hoptional (hpath : f.isPath = true) (hopt : f.isOptional = true) :
      f.Admits (if v.holds then .path (placeIn host root v) else .value .null) := by
    split
    · exact .path hpath _
    · exact Or.inl ⟨hopt, rfl⟩
  have htext (hpath : f.isPath = false) (hflag : f.isFlag = false) (hopt : f.isOptional = true) :
      f.Admits (.value (Value.ofText? v.plainText?)) := by
    cases v.plainText? with
    | none => exact Or.inl ⟨hopt, rfl⟩
    | some t => exact Or.inr (by rw [hpath, hflag]; exact ⟨t, rfl⟩)
  have hneeded (hneeds : f.needsText = true) :
      f.Admits (.value (Value.ofText? v.plainText?)) ↔
        (f.needsText = true → v.plainText?.isSome = true) := by
    rw [Field.admits_of_needsText hneeds, ofText?_eq_text_iff]
    exact ⟨fun h _ => h, fun h => h hneeds⟩
  cases f with
  | root => exact iff_of_true (.path rfl _) fun h => nomatch h
  | tmp => exact iff_of_true (hoptional rfl rfl) fun h => nomatch h
  | logFile => exact iff_of_true (hoptional rfl rfl) fun h => nomatch h
  | noAlias => exact iff_of_true (Or.inr ⟨_, rfl⟩) fun h => nomatch h
  | force => exact iff_of_true (Or.inr ⟨_, rfl⟩) fun h => nomatch h
  | testMode => exact iff_of_true (Or.inr ⟨_, rfl⟩) fun h => nomatch h
  | entry => exact iff_of_true (htext rfl rfl rfl) fun h => nomatch h
  | customAlias => exact iff_of_true (htext rfl rfl rfl) fun h => nomatch h
  | template => exact iff_of_true (htext rfl rfl rfl) fun h => nomatch h
  | tsc => exact hneeded rfl
  | output => exact hneeded rfl
  | logLevel =>
    -- A level that is known is the text of the value, so the value stands for one.
    refine iff_of_true (Or.inr ⟨_, rfl⟩) fun _ => ?_
    obtain ⟨t, ht, -⟩ := Option.bind_eq_some_iff.1 (Option.eq_some_of_isSome haccept)
    rw [ht]
    rfl
  | shake =>
    cases v with
    | bool b =>
      cases b with
      | false => exact iff_of_true (Or.inr ⟨_, rfl⟩) fun _ => rfl
      | true => exact hneeded rfl
    | _ => exact hneeded rfl

/-- What is not admitted is nothing, given to an option for the compiler, the output file or the
policy. -/
theorem coerced_of_not_admits (haccept : f.accepts v = true)
    (h : ¬ f.Admits (coerced host root f v)) :
    f ∈ [Field.tsc, .output, .shake] ∧ coerced host root f v = .value .null := by
  rw [admits_coerced_iff haccept, Classical.not_imp, Bool.not_eq_true, Option.isSome_eq_false_iff,
    Option.isNone_iff_eq_none] at h
  obtain ⟨hneeds, hplain⟩ := h
  cases f with
  | tsc => exact ⟨by decide, congrArg (fun t => Setting.value (Value.ofText? t)) hplain⟩
  | output => exact ⟨by decide, congrArg (fun t => Setting.value (Value.ofText? t)) hplain⟩
  | logLevel =>
    have hlevel : (v.plainText?.bind fun t => Level.find? (Text.lower t)).isSome = true := haccept
    rw [hplain] at hlevel
    cases hlevel
  | shake =>
    refine ⟨by decide, ?_⟩
    cases v with
    | bool b => cases hplain
    | _ => exact congrArg (fun t => Setting.value (Value.ofText? t)) hplain
  | _ => cases hneeds

theorem accepts_of_lastFor (hsound : ∀ e ∈ data, isSound host e = true)
    (h : lastFor host data f = some v) : f.accepts v = true := by
  obtain ⟨k, hmem, hkey⟩ := exists_mem_of_lastFor h
  have hvalid := (isSound_iff.1 (hsound _ hmem)).2
  rwa [isValid, hkey] at hvalid

section

variable (hsound : ∀ e ∈ data, isSound host e = true)
    (hget : ∀ f, s.get f = chosen host root (fun _ => none) data f)
include hsound hget

/-- Settings from a project file are typed if every option that has to hold a text is given one or
is not given. -/
theorem typed_iff :
    s.Typed ↔
      ∀ f v, f.needsText = true → lastFor host data f = some v → v.plainText?.isSome = true := by
  have hoption (f : Field) :
      f.Admits (s.get f) ↔
        ∀ v, f.needsText = true → lastFor host data f = some v → v.plainText?.isSome = true := by
    rw [hget, chosen]
    cases hlast : lastFor host data f with
    | none =>
      refine iff_of_true (admits_defaults root f) fun v hneeds h => ?_
      cases h
    | some v =>
      rw [admits_coerced_iff (accepts_of_lastFor hsound hlast)]
      refine ⟨fun h w hneeds heq => Option.some.inj heq ▸ h hneeds, fun h hneeds => h v hneeds rfl⟩
  exact forall_congr' hoption

/-- Loaded settings hold nothing where a text is needed, or else what they are declared to hold. -/
theorem get_of_not_admits (h : ¬ f.Admits (s.get f)) :
    f ∈ [Field.tsc, .output, .shake] ∧ s.get f = .value .null := by
  rw [hget, chosen] at h ⊢
  cases hlast : lastFor host data f with
  | none =>
    rw [hlast] at h
    exact absurd (admits_defaults root f) h
  | some v =>
    rw [hlast] at h
    exact coerced_of_not_admits (accepts_of_lastFor hsound hlast) h

theorem not_admits_get (hneeds : f.needsText = true) (hlast : lastFor host data f = some v)
    (hplain : v.plainText? = none) : ¬ f.Admits (s.get f) := by
  rw [hget, chosen, hlast, admits_coerced_iff (accepts_of_lastFor hsound hlast), hplain]
  intro h
  cases h hneeds

theorem exists_root : ∃ p, s.root = .path p := by
  have hadmits : Field.root.Admits (s.get .root) := by
    by_contra h
    exact absurd (get_of_not_admits hsound hget h).1 (by decide)
  exact hadmits.resolve_left fun h => nomatch h.1

end
end

section

variable {host : Host} {root : Path} {t : Text} {data : List (Value × Value)}

/-- A sound mapping alone sets each option to what was chosen. -/
theorem ofEntries_nil (hcwd : host.Takes host.cwd) (hroot : host.Takes root)
    (hsound : ∀ e ∈ data, isSound host e = true) :
    ∃ s, ofEntries host root data [] = .ok s ∧
      ∀ f, s.get f = chosen host root (fun _ => none) data f :=
  ofEntries_of_sound hcwd hroot hsound (fun _ => rfl) fun _ _ h => nomatch h

/-- A mapping is refused, or gives settings that are typed, exactly if some entry is invalid and no
entry up to it is illegible, or if every entry is sound and no option that has to hold a text is
given a value without one.  Settings that it gives hold nothing in the place of what they lack: the
bundle has no place exactly if the output file is lacking, and the compiler has no command exactly
if its options are.  There is always a policy for shaking.  Whatever a project file is read as, this
is what is loaded from it. -/
theorem load_usable_iff (hcwd : host.Takes host.cwd) (hdir : (Path.parse t).Literal host)
    (data : List (Value × Value)) :
    (((∃ cause, ofEntries host (Path.resolve host.cwd (Path.parse t)) data [] =
          .error (.settings cause)) ∨
        ∃ s, ofEntries host (Path.resolve host.cwd (Path.parse t)) data [] = .ok s ∧ s.Typed) ↔
      (∃ front e back, data = front ++ e :: back ∧ (∀ e' ∈ front, isLegible host e' = true) ∧
        isLegible host e = true ∧ isValid host e = false) ∨
      ((∀ e ∈ data, isSound host e = true) ∧
        ∀ f v, f.needsText = true → lastFor host data f = some v → v.plainText?.isSome = true)) ∧
    (∀ s, ofEntries host (Path.resolve host.cwd (Path.parse t)) data [] = .ok s →
      (∀ f : Field, ¬ f.Admits (s.get f) →
        f ∈ [Field.tsc, .output, .shake] ∧ s.get f = .value .null) ∧
      ((∃ e, s.outputPath host = .error e ∧ e.isMistyped = true) ↔
        ¬ Field.output.Admits (s.get .output)) ∧
      (∀ executable dir, (∃ e, Compiler.command executable dir s.tsc = .error e ∧
        e.isMistyped = true) ↔ ¬ Field.tsc.Admits (s.get .tsc)) ∧
      ∀ voice, ∃ policy, (policyOf voice s.shake).Gives (.ok policy)) ∧
    ∀ tree, projectData host tree (Path.resolve host.cwd (Path.parse t)) = .ok data →
      load host tree (Path.parse t) [] =
        ofEntries host (Path.resolve host.cwd (Path.parse t)) data [] := by
  have hroot := takes_dir hcwd hdir
  have hgiven {s : Settings}
      (h : ofEntries host (Path.resolve host.cwd (Path.parse t)) data [] = .ok s) :
      (∀ e ∈ data, isSound host e = true) ∧ ∀ f, s.get f =
        chosen host (Path.resolve host.cwd (Path.parse t)) (fun _ => none) data f := by
    have hsound := sound_of_ofEntries hroot h
    obtain ⟨s', hs', hget⟩ := ofEntries_nil hcwd hroot hsound
    rw [h] at hs'
    cases hs'
    exact ⟨hsound, hget⟩
  have hover (d : Draft) : override d [] = .ok fun f => (none : Option Setting).or (d f) := rfl
  have hrefused := (ofEntries_refused_iff hcwd hroot hover fun _ _ h => nomatch h).trans
    (coerce_refused_iff host hroot.clean data)
  refine ⟨or_congr hrefused ⟨?_, ?_⟩, fun s hs => ?_, fun tree hdata =>
    load_of_projectData hdir hdata⟩
  · rintro ⟨s, hs, htyped⟩
    obtain ⟨hsound, hget⟩ := hgiven hs
    exact ⟨hsound, (typed_iff hsound hget).1 htyped⟩
  · rintro ⟨hsound, htexts⟩
    obtain ⟨s, hs, hget⟩ := ofEntries_nil hcwd hroot hsound
    exact ⟨s, hs, (typed_iff hsound hget).2 htexts⟩
  · obtain ⟨hsound, hget⟩ := hgiven hs
    obtain ⟨p, hp⟩ := exists_root hsound hget
    refine ⟨fun f => get_of_not_admits hsound hget, ?_, fun executable dir => ?_,
      fun voice => gives_policyOf voice s.shake⟩
    · rw [outputPath_mistyped_iff hp, Field.admits_of_needsText rfl]
      simp only [get, Setting.value.injEq]
    · rw [Compiler.command_mistyped_iff, Field.admits_of_needsText rfl]
      simp only [get, Setting.value.injEq]

end

/-! ## Project files with and without texts -/

/-- A project file with texts is loaded, and the bundle has a place. -/
theorem load_usable_iff_twoSpellings :
    ∃ s, load (readingAs twoLevels) (packageWith twoSpellings) (Path.parse "/pkg".toList) [] =
        .ok s ∧
      s.Typed ∧ ¬ ∃ e, s.outputPath (readingAs twoLevels) = .error e ∧ e.isMistyped = true := by
  obtain ⟨husable, hgiven, hfile⟩ := load_usable_iff (takes_readingAs twoLevels)
    (literal_readingAs twoLevels) twoLevels
  have hsound : ∀ e ∈ twoLevels, isSound (readingAs twoLevels) e = true :=
    List.all_eq_true.1 (by decide +kernel)
  have htexts : ∀ e ∈ twoLevels, e.2.plainText?.isSome = true := List.all_eq_true.1 (by decide)
  have hends := husable.2 (Or.inr ⟨hsound, fun f v _ hlast => by
    obtain ⟨k, hmem, -⟩ := exists_mem_of_lastFor hlast
    exact htexts _ hmem⟩)
  rw [hfile _ (projectData_readingAs _)]
  rcases hends with ⟨cause, hrefused⟩ | ⟨s, hs, htyped⟩
  · obtain ⟨s, hs, -⟩ := ofEntries_nil (takes_readingAs twoLevels)
      (takes_dir (takes_readingAs twoLevels) (literal_readingAs twoLevels)) hsound
    rw [hs] at hrefused
    cases hrefused
  · exact ⟨s, hs, htyped, fun h => (hgiven s hs).2.1.1 h (htyped .output)⟩

/-- A mapping that names options without giving a text for them. -/
def textless : List (Value × Value) :=
  [(.text "output".toList, .null), (.text "tsc".toList, .list [.text "--strict".toList])]

/-- Settings are loaded without a text for the output file and for the options of the compiler.
Then the bundle has no place, and the compiler no command. -/
theorem textless_mistyped :
    ∃ s, load (readingAs textless) (packageWith twoSpellings) (Path.parse "/pkg".toList) [] =
        .ok s ∧
      ¬ s.Typed ∧ s.outputPath (readingAs textless) = .error (.misuse .type) ∧
      ∀ executable dir, Compiler.command executable dir s.tsc = .error (.misuse .operation) := by
  have hsound : ∀ e ∈ textless, isSound (readingAs textless) e = true :=
    List.all_eq_true.1 (by decide +kernel)
  obtain ⟨s, hs, hget⟩ := ofEntries_nil (takes_readingAs textless)
    (takes_dir (takes_readingAs textless) (literal_readingAs textless)) hsound
  obtain ⟨p, hp⟩ := exists_root hsound hget
  have houtput := not_admits_get (f := .output) hsound hget rfl rfl rfl
  have htsc := not_admits_get (f := .tsc) hsound hget rfl rfl rfl
  refine ⟨s, ?_, fun htyped => houtput (htyped .output), ?_, fun executable dir => ?_⟩
  · rw [load_of_projectData (literal_readingAs textless) (projectData_readingAs textless)]
    exact hs
  · rw [outputPath, hp, Setting.value.inj (get_of_not_admits hsound hget houtput).2]
  · rw [Setting.value.inj (get_of_not_admits hsound hget htsc).2]
    rfl

end Settings
end AmbientBundle
