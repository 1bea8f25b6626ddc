import AmbientBundle.ModuleName
import AmbientBundle.Proofs.Path

/-!
# Names of declaration files

A declaration file below the scratch directory is named after the package and the names
that lead to the file, without the ending of declaration files (`name_declaration`).
`moduleId` is that name, written out from the names alone.  Different names give
different ids (`moduleId_inj`), and an id is read back as the names it was made from
(`parse_moduleId`), so the ids of a package can be handled like paths.
-/

namespace AmbientBundle

/-! ## Endings -/

/-- What can follow the last dot of a file name. -/
structure IsExtension (ext : Text) : Prop where
  /-- There is something. -/
  ne_nil : ext ≠ []
  /-- There is no other dot. -/
  no_dot : '.' ∉ ext
  /-- The name has not ended. -/
  no_slash : '/' ∉ ext

instance (ext : Text) : Decidable (IsExtension ext) :=
  decidable_of_iff (ext ≠ [] ∧ '.' ∉ ext ∧ '/' ∉ ext)
    ⟨fun h => ⟨h.1, h.2.1, h.2.2⟩, fun h => ⟨h.ne_nil, h.no_dot, h.no_slash⟩⟩

/-- How the name of a declaration file ends, given its extension. -/
def declarationEndingOf (ext : Text) : Text := ['.', 'd'] ++ '.' :: ext

/-- The ending of declaration files. -/
def declarationEnding : Text := ['.', 'd', '.', 't', 's']

/-- Files in one place with one stem differ in their extensions, or they are the same. -/
theorem eq_of_declarationEndingOf_eq {front : List Text} {stem ext ext' : Text}
    (h : front ++ [stem ++ declarationEndingOf ext] = front ++ [stem ++ declarationEndingOf ext']) :
    ext = ext' := by
  have hending := List.append_cancel_left (List.singleton_inj.1 (List.append_cancel_left h))
  exact (List.cons.inj (List.append_cancel_left hending)).2

theorem dropExtension_append {ext : Text} (hext : IsExtension ext) (t : Text) :
    dropExtension (t ++ '.' :: ext) = t := by
  have hchar : ∀ c ∈ ext.reverse, (c ≠ '.' && c ≠ '/') = true := by
    intro c hc
    have hdot : c ≠ '.' := fun h => hext.no_dot (h ▸ List.mem_reverse.1 hc)
    have hslash : c ≠ '/' := fun h => hext.no_slash (h ▸ List.mem_reverse.1 hc)
    simp [hdot, hslash]
  have hrev : (t ++ '.' :: ext).reverse = ext.reverse ++ '.' :: t.reverse := by simp
  have htake : (ext.reverse ++ '.' :: t.reverse).takeWhile (fun c => c ≠ '.' && c ≠ '/') =
      ext.reverse := by
    rw [List.takeWhile_append_of_pos hchar]
    simp
  have hdrop : (ext.reverse ++ '.' :: t.reverse).dropWhile (fun c => c ≠ '.' && c ≠ '/') =
      '.' :: t.reverse := by
    rw [List.dropWhile_append_of_pos hchar]
    simp
  obtain ⟨c, cs, hcons⟩ := List.exists_cons_of_ne_nil (mt List.reverse_eq_nil_iff.1 hext.ne_nil)
  simp only [dropExtension, hrev, htake, hdrop]
  rw [hcons]
  exact t.reverse_reverse

theorem dropDeclarationMark_append (t : Text) : dropDeclarationMark (t ++ ['.', 'd']) = t := by
  simp [dropDeclarationMark]

/-- A last name that does not end in `.d` is kept. -/
theorem dropDeclarationMark_of_not_suffix {pre last : Text} (hne : last ≠ [])
    (hline : '\n' ∉ last) (hmark : ¬ ['.', 'd'] <:+ last) :
    dropDeclarationMark (pre ++ '/' :: last) = pre ++ '/' :: last := by
  -- A short ending of the whole is an ending of the last name and the slash before it.
  have hending {e : Text} (he : e <:+ pre ++ '/' :: last) (hlen : e.length ≤ 2) :
      e = '/' :: last ∨ e <:+ last := by
    have hpos := List.length_pos_iff.2 hne
    refine List.suffix_cons_iff.1 (List.suffix_of_suffix_length_le he ⟨pre, rfl⟩ ?_)
    rw [List.length_cons]
    omega
  rw [dropDeclarationMark]
  split
  · next front hrev =>
    have hwhole : front.reverse ++ ['.', 'd'] = pre ++ '/' :: last := by
      simpa using (congrArg List.reverse hrev).symm
    rcases hending ⟨_, hwhole⟩ (Nat.le_refl 2) with heq | hsuffix
    · cases heq
    · exact absurd hsuffix hmark
  · next front hrev =>
    have hwhole : front.reverse ++ ['.', 'd'] ++ ['\n'] = pre ++ '/' :: last := by
      simpa using (congrArg List.reverse hrev).symm
    rcases hending ⟨_, hwhole⟩ (Nat.le_succ 1) with heq | hsuffix
    · cases heq
    · exact absurd (hsuffix.subset List.mem_cons_self) hline
  · rfl

theorem slashed_of_no_backslash {t : Text} (h : '\\' ∉ t) : slashed t = t := by
  refine (List.map_congr_left fun c hc => ?_).trans (List.map_id t)
  have hne : c ≠ '\\' := by
    intro heq
    subst heq
    exact h hc
  rw [if_neg hne, id]

/-! ## Ids -/

/-- A package name that is a normal relative path. -/
structure IsPackage (package : Text) : Prop where
  /-- No piece is empty, `.` or `..`. -/
  pieces : ∀ p ∈ Text.splitOn '/' package, Path.isPart p = true ∧ p ≠ upPart
  /-- There is no backslash. -/
  no_backslash : '\\' ∉ package

instance (package : Text) : Decidable (IsPackage package) :=
  decidable_of_iff ((∀ p ∈ Text.splitOn '/' package, Path.isPart p = true ∧ p ≠ upPart) ∧
    '\\' ∉ package) ⟨fun h => ⟨h.1, h.2⟩, fun h => ⟨h.pieces, h.no_backslash⟩⟩

theorem IsPackage.proper {package p : Text} (h : IsPackage package)
    (hp : p ∈ Text.splitOn '/' package) : Path.Proper p :=
  ⟨(h.pieces p hp).1, Text.not_mem_of_mem_splitOn hp⟩

theorem IsPackage.no_up {package : Text} (h : IsPackage package) :
    upPart ∉ Text.splitOn '/' package :=
  fun hmem => (h.pieces upPart hmem).2 rfl

/-- A name that ids can be made of. -/
structure IsPiece (x : Text) : Prop where
  /-- It can stand between slashes. -/
  proper : Path.Proper x
  /-- It does not lead up. -/
  not_up : x ≠ upPart
  /-- It has no backslash. -/
  no_backslash : '\\' ∉ x

/-- The id of a module of a package, given the names that lead to it. -/
def moduleId (package : Text) (ns : List Text) : ModuleId :=
  Text.joinWith '/' (Text.splitOn '/' package ++ ns)

section

variable {package : Text} {ns ms : List Text}

/-- An id with names starts with the package. -/
theorem moduleId_eq (hne : ns ≠ []) :
    moduleId package ns = package ++ '/' :: Text.joinWith '/' ns := by
  rw [moduleId, Text.joinWith_append (Text.splitOn_ne_nil _ _) hne, Text.joinWith_splitOn]

/-- An ending goes to the last name of an id. -/
theorem moduleId_append (front : List Text) (last ending : Text) :
    moduleId package (front ++ [last ++ ending]) =
      moduleId package (front ++ [last]) ++ ending := by
  rw [moduleId, moduleId, ← List.append_assoc, ← List.append_assoc, Text.joinWith_concat_append]

/-- Cutting an id at the slashes gives the names back. -/
theorem splitOn_moduleId (h : ∀ x ∈ ns, '/' ∉ x) :
    Text.splitOn '/' (moduleId package ns) = Text.splitOn '/' package ++ ns := by
  refine Text.splitOn_joinWith ?_ ?_
  · exact List.append_ne_nil_of_left_ne_nil (Text.splitOn_ne_nil _ _) _
  · intro x hx
    rcases List.mem_append.1 hx with hx | hx
    · exact Text.not_mem_of_mem_splitOn hx
    · exact h x hx

/-- Different names give different ids. -/
theorem moduleId_inj (hns : ∀ x ∈ ns, '/' ∉ x) (hms : ∀ x ∈ ms, '/' ∉ x)
    (h : moduleId package ns = moduleId package ms) : ns = ms := by
  have hsplit := congrArg (Text.splitOn '/') h
  rw [splitOn_moduleId hns, splitOn_moduleId hms] at hsplit
  exact List.append_cancel_left hsplit

/-- An id is read back as the names it was made from. -/
theorem parse_moduleId (hpkg : IsPackage package) (h : ∀ x ∈ ns, IsPiece x) :
    Path.parse (moduleId package ns) = ⟨.here, Text.splitOn '/' package ++ ns⟩ := by
  refine Path.parse_joinWith ?_ ?_
  · exact List.append_ne_nil_of_left_ne_nil (Text.splitOn_ne_nil _ _) _
  · intro x hx
    rcases List.mem_append.1 hx with hx | hx
    · exact hpkg.proper hx
    · exact (h x hx).proper

theorem slashed_moduleId (hpkg : IsPackage package) (h : ∀ x ∈ ns, '\\' ∉ x) :
    slashed (moduleId package ns) = moduleId package ns := by
  refine slashed_of_no_backslash fun hmem => ?_
  rcases Text.mem_joinWith hmem with heq | ⟨x, hx, hmem⟩
  · exact absurd heq (by decide)
  · rcases List.mem_append.1 hx with hx | hx
    · exact hpkg.no_backslash (Text.mem_of_mem_splitOn hx hmem)
    · exact h x hx hmem

/-- Backslashes in names would be read as slashes; without them only the package may change. -/
theorem slashed_prefixed (hne : ns ≠ []) (h : ∀ x ∈ ns, '\\' ∉ x) :
    slashed (package ++ '/' :: Text.joinWith '/' ns) = moduleId (slashed package) ns := by
  have hjoin : slashed (Text.joinWith '/' ns) = Text.joinWith '/' ns := by
    refine slashed_of_no_backslash fun hmem => ?_
    rcases Text.mem_joinWith hmem with heq | ⟨x, hx, hmem⟩
    · exact absurd heq (by decide)
    · exact h x hx hmem
  rw [moduleId_eq hne, slashed, List.map_append, List.map_cons]
  exact congrArg (fun t => slashed package ++ '/' :: t) hjoin

end

/-! ## Names -/

namespace Namer

variable {n : Namer} {dir : Path}

/-- The way from the scratch directory to a place below it. -/
theorem relativeText_scratch (hjoin : (n.cwd.join dir).isAbsolute = true)
    (hscratch : n.scratch = Path.under n.cwd dir) {ns : List Text} (hup : upPart ∉ ns) :
    n.relativeText .scratch (dir.descend ns) = Path.partsText ns := by
  have hbase : (Path.under n.cwd n.scratch).parts =
      Path.normalParts true (n.cwd.join dir).parts := by
    rw [hscratch, Path.under_under hjoin, Path.under, Path.parts_normal hjoin]
  have hnormal : Path.normalParts false ns = ns := Path.normalParts_of_no_up hup
  have hplace : (Path.under n.cwd (dir.descend ns)).parts =
      Path.normalParts true (n.cwd.join dir).parts ++ ns := by
    have hdescend : ((n.cwd.join dir).descend ns).isAbsolute = true := hjoin
    rw [Path.under, Path.join_descend, Path.parts_normal hdescend]
    have happend := @Path.normalParts_append true (n.cwd.join dir).parts ns (by rwa [hnormal])
    rw [hnormal] at happend
    exact happend
  rw [relativeText, baseParts, hbase, hplace, Path.relativeParts_self_append]

/-- A declaration file is named after the package and the names that lead to it. -/
theorem name_declaration (habs : n.cwd.isAbsolute = true)
    (hscratch : n.scratch = Path.under n.cwd dir) {isFile : Text → Bool} {front : List Text}
    {stem ext : Text} (hext : IsExtension ext) (hparts : ∀ x ∈ dir.parts, Path.Proper x)
    (hnames : ∀ x ∈ front ++ [stem ++ declarationEndingOf ext], IsPiece x)
    (hfile : isFile (dir.descend (front ++ [stem ++ declarationEndingOf ext])).toText = true) :
    n.name isFile {} (dir.descend (front ++ [stem ++ declarationEndingOf ext])).toText =
      moduleId (slashed n.package) (front ++ [stem]) := by
  have hne : front ++ [stem ++ declarationEndingOf ext] ≠ [] :=
    List.append_ne_nil_of_right_ne_nil _ (List.cons_ne_nil _ _)
  have hproper : ∀ x ∈ (dir.descend (front ++ [stem ++ declarationEndingOf ext])).parts,
      Path.Proper x := by
    intro x hx
    rcases List.mem_append.1 hx with hx | hx
    · exact hparts x hx
    · exact (hnames x hx).proper
  have hup : upPart ∉ front ++ [stem ++ declarationEndingOf ext] :=
    fun hmem => (hnames _ hmem).not_up rfl
  have hrel : n.relativeText .scratch (dir.descend (front ++ [stem ++ declarationEndingOf ext])) =
      Text.joinWith '/' (front ++ [stem ++ declarationEndingOf ext]) := by
    rw [relativeText_scratch (Path.isAbsolute_join habs dir) hscratch hup,
      Path.partsText_of_ne_nil hne]
  have hfull : slashed (n.package ++ '/' :: Text.joinWith '/'
      (front ++ [stem ++ declarationEndingOf ext])) =
      moduleId (slashed n.package) (front ++ [stem]) ++ ['.', 'd'] ++ '.' :: ext := by
    rw [slashed_prefixed hne fun x hx => (hnames x hx).no_backslash, moduleId_append,
      declarationEndingOf, List.append_assoc]
  simp only [name, nameOf, hfile, Path.parse_toText hproper, hrel, Bool.not_false, Bool.true_and,
    Bool.false_or, Bool.false_eq_true, if_false, if_true, hfull]
  rw [dropExtension_append hext, dropDeclarationMark_append]

end Namer
end AmbientBundle
