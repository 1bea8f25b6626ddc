import AmbientBundle.Proofs.FileTree.Mirror
import Mathlib.Data.List.Sort

/-!
# Listings of mirrored trees

A listing goes through the entries of a directory in the order of their names.  A well-formed
directory has each name once, so the order of its entries on the disk does not matter
(`names_sortByName`), and two directories that are seen alike are listed alike: `files_agree` says
that they have the same files in the same order, below their own paths.  The paths may be of
different lengths, as long as they run into the limit of the file system together.
-/

namespace AmbientBundle

/-! ## The order of names -/

namespace Text

theorem le_total (t u : Text) : Text.le t u = true ∨ Text.le u t = true := by
  induction t generalizing u with
  | nil => exact Or.inl rfl
  | cons a as ih =>
    cases u with
    | nil => exact Or.inr rfl
    | cons b bs =>
      by_cases hab : a = b
      · subst hab
        simpa [Text.le] using ih bs
      · have hne : a.toNat ≠ b.toNat := fun h => hab (Char.toNat_inj.1 h)
        simp only [Text.le, if_neg hab, if_neg (Ne.symm hab), decide_eq_true_eq]
        omega

theorem le_antisymm {t u : Text} (htu : Text.le t u = true) (hut : Text.le u t = true) : t = u := by
  induction t generalizing u with
  | nil =>
    cases u with
    | nil => rfl
    | cons b bs => cases hut
  | cons a as ih =>
    cases u with
    | nil => cases htu
    | cons b bs =>
      by_cases hab : a = b
      · subst hab
        simp only [Text.le, if_true] at htu hut
        rw [ih htu hut]
      · simp only [Text.le, if_neg hab, if_neg (Ne.symm hab), decide_eq_true_eq] at htu hut
        omega

theorem le_trans {t u v : Text} (htu : Text.le t u = true) (huv : Text.le u v = true) :
    Text.le t v = true := by
  induction t generalizing u v with
  | nil => rfl
  | cons a as ih =>
    cases u with
    | nil => cases htu
    | cons b bs =>
      cases v with
      | nil => cases huv
      | cons c cs =>
        by_cases hab : a = b
        · subst hab
          by_cases hac : a = c
          · subst hac
            simp only [Text.le, if_true] at htu huv ⊢
            exact ih htu huv
          · simpa [Text.le, hac] using huv
        · by_cases hbc : b = c
          · subst hbc
            simpa [Text.le, hab] using htu
          · simp only [Text.le, if_neg hab, if_neg hbc, decide_eq_true_eq] at htu huv
            have hac : a ≠ c := by
              rintro rfl
              omega
            simp only [Text.le, if_neg hac, decide_eq_true_eq]
            omega

end Text

namespace Listing

instance : Std.Total fun t u : Text => Text.le t u = true := ⟨Text.le_total⟩
instance : IsTrans Text fun t u => Text.le t u = true := ⟨fun _ _ _ => Text.le_trans⟩
instance : Std.Antisymm fun t u : Text => Text.le t u = true := ⟨fun _ _ => Text.le_antisymm⟩

theorem names_insertByName (e : Text × Entry) (es : List (Text × Entry)) :
    (insertByName e es).map Prod.fst =
      (es.map Prod.fst).orderedInsert (fun t u => Text.le t u = true) e.1 := by
  induction es with
  | nil => rfl
  | cons d rest ih =>
    rw [insertByName, List.map_cons, List.orderedInsert_cons]
    split
    · rfl
    · rw [List.map_cons, ih]

theorem names_sortByName (es : List (Text × Entry)) :
    (sortByName es).map Prod.fst = (es.map Prod.fst).insertionSort fun t u => Text.le t u = true := by
  induction es with
  | nil => rfl
  | cons e rest ih => rw [sortByName, names_insertByName, ih]; rfl

/-! ## Directories that are seen alike -/

/-- Whether a place below two directories can be reached from both, or from neither. -/
def Level (dir dir' : Path) (ns : List Text) : Prop :=
  (dir.descend ns).isTooLong = (dir'.descend ns).isTooLong

/-- Entries below two directories that are the same file, or directories with the same below
them. -/
def SameEntry (dir dir' : Path) (ns : List Text) : Entry → Entry → Prop
  | .file c mode, .file c' mode' => c = c' ∧ mode = mode' ∧ Level dir dir' ns
  | .dir f, .dir g => f.WellFormed ∧ g.WellFormed ∧ (∀ ms, f.look ms = g.look ms) ∧
      ∀ ms, f.look ms ≠ none → Level dir dir' (ns ++ ms)
  | _, _ => False

section

variable {f g : Folder}

theorem mem_names_iff (hf : f.WellFormed) (n : Text) :
    n ∈ f.entries.map Prod.fst ↔ f.look [n] ≠ none := by
  rw [List.mem_map, Ne, Folder.look_eq_none_iff, Folder.get?_singleton]
  constructor
  · rintro ⟨e, he, rfl⟩ hnone
    rw [hf.find?_of_mem (e := e.2) he] at hnone
    cases hnone
  · intro hsome
    cases hfind : f.find? n with
    | none => exact absurd hfind hsome
    | some e => exact ⟨(n, e), Folder.mem_entries_of_find? hfind, rfl⟩

theorem names_eq (hf : f.WellFormed) (hg : g.WellFormed) (h : ∀ ns, f.look ns = g.look ns) :
    (sortByName f.entries).map Prod.fst = (sortByName g.entries).map Prod.fst := by
  have hperm : (f.entries.map Prod.fst).Perm (g.entries.map Prod.fst) := by
    refine (List.perm_ext_iff_of_nodup hf.nodup hg.nodup).2 fun n => ?_
    rw [mem_names_iff hf, mem_names_iff hg, h [n]]
  rw [names_sortByName, names_sortByName]
  refine List.Perm.eq_of_pairwise' (List.pairwise_insertionSort _ _)
    (List.pairwise_insertionSort _ _) ?_
  exact (List.perm_insertionSort _ _).trans (hperm.trans (List.perm_insertionSort _ _).symm)

variable {dir dir' : Path}

theorem sameEntry_of_mem {ns : List Text} (hf : f.WellFormed) (hg : g.WellFormed)
    (h : ∀ ms, f.look ms = g.look ms) (hlevel : ∀ ms, f.look ms ≠ none → Level dir dir' (ns ++ ms))
    {n : Text} {d e : Entry} (hd : (n, d) ∈ f.entries) (he : (n, e) ∈ g.entries) :
    SameEntry dir dir' (ns ++ [n]) d e := by
  have hfd := hf.find?_of_mem hd
  have hge := hg.find?_of_mem he
  have hlook := h [n]
  have hthere := hlevel [n]
  rw [Folder.look, Folder.look, Folder.get?_singleton, Folder.get?_singleton, hfd, hge] at hlook
  rw [Folder.look, Folder.get?_singleton, hfd] at hthere
  have hsurface : d.surface = e.surface := Option.some.inj hlook
  cases d with
  | file c mode =>
    cases e with
    | file c' mode' =>
      cases hsurface
      exact ⟨rfl, rfl, hthere (Option.some_ne_none _)⟩
    | dir g' => cases hsurface
  | dir f' =>
    cases e with
    | file c' mode' => cases hsurface
    | dir g' =>
      refine ⟨hf.inner hd, hg.inner he, fun ms => ?_, fun ms hms => ?_⟩
      · have hbelow := h (n :: ms)
        rwa [Folder.look, Folder.look, Folder.get?_cons_of_dir hfd, Folder.get?_cons_of_dir hge]
          at hbelow
      · rw [List.append_assoc]
        refine hlevel _ ?_
        rwa [Folder.look, List.singleton_append, Folder.get?_cons_of_dir hfd]

/-- Entries at paths that lead equally far, to the same files. -/
def SamePending (dir dir' : Path) (d e : Path × Entry) : Prop :=
  ∃ ns, d.1 = dir.descend ns ∧ e.1 = dir'.descend ns ∧ SameEntry dir dir' ns d.2 e.2

theorem forall₂_of_names {ds es : List (Text × Entry)} (hnames : ds.map Prod.fst = es.map Prod.fst)
    {R : Text × Entry → Text × Entry → Prop}
    (hR : ∀ n d e, (n, d) ∈ ds → (n, e) ∈ es → R (n, d) (n, e)) : List.Forall₂ R ds es := by
  induction ds generalizing es with
  | nil =>
    cases es with
    | nil => exact .nil
    | cons e es => cases hnames
  | cons d ds ih =>
    cases es with
    | nil => cases hnames
    | cons e es =>
      obtain ⟨n, d⟩ := d
      obtain ⟨m, e⟩ := e
      obtain ⟨hname, hrest⟩ := List.cons.inj hnames
      obtain rfl : n = m := hname
      refine .cons (hR n d e List.mem_cons_self List.mem_cons_self) (ih hrest fun k d' e' hd he => ?_)
      exact hR k d' e' (List.mem_cons_of_mem _ hd) (List.mem_cons_of_mem _ he)

theorem children_agree {ns : List Text} (hf : f.WellFormed) (hg : g.WellFormed)
    (h : ∀ ms, f.look ms = g.look ms)
    (hlevel : ∀ ms, f.look ms ≠ none → Level dir dir' (ns ++ ms)) :
    List.Forall₂ (SamePending dir dir') (children (dir.descend ns) f)
      (children (dir'.descend ns) g) := by
  rw [children, children, List.forall₂_map_left_iff, List.forall₂_map_right_iff]
  refine forall₂_of_names (names_eq hf hg h) fun n d e hd he => ⟨ns ++ [n], ?_, ?_, ?_⟩
  · simp [Path.descend, Path.child]
  · simp [Path.descend, Path.child]
  · exact sameEntry_of_mem hf hg h hlevel (mem_sortByName.1 hd) (mem_sortByName.1 he)

/-- Files with the same bytes at paths that lead equally far. -/
def SameFound (dir dir' : Path) (x y : FoundFile) : Prop :=
  x.content = y.content ∧ ∃ ns, x.path = dir.descend ns ∧ y.path = dir'.descend ns

theorem collect_agree {es es' : List (Path × Entry)}
    (h : List.Forall₂ (SamePending dir dir') es es') :
    Agree OsFault.Same (List.Forall₂ (SameFound dir dir')) (collect es) (collect es') := by
  -- A directory can be reached if what is at it can.
  have hhere {f : Folder} {ns : List Text} (hlevel : ∀ ms, f.look ms ≠ none → Level dir dir' (ns ++ ms)) :
      Level dir dir' ns := by
    have hself := hlevel [] (by simp)
    rwa [List.append_nil] at hself
  fun_induction collect es generalizing es' with
  | case1 =>
    cases h
    rw [collect]
    exact .nil
  | case2 p c mode rest htoo =>
    obtain ⟨⟨q, e⟩, rest', ⟨ns, rfl, rfl, hsame⟩, -, rfl⟩ := List.forall₂_cons_left_iff.1 h
    cases e with
    | dir inner => exact hsame.elim
    | file c' mode' =>
      rw [collect, if_pos (hsame.2.2 ▸ htoo)]
      exact (rfl : Errno.nameTooLong = .nameTooLong)
  | case3 p c mode rest hshort ih =>
    obtain ⟨⟨q, e⟩, rest', ⟨ns, rfl, rfl, hsame⟩, hrest, rfl⟩ := List.forall₂_cons_left_iff.1 h
    cases e with
    | dir inner => exact hsame.elim
    | file c' mode' =>
      rw [collect, if_neg (hsame.2.2 ▸ hshort)]
      rcases (ih hrest).cases with ⟨xs, ys, hxs, hys, hall⟩ | ⟨e, d, he, hd, hwhy⟩
      · rw [hxs, hys]
        exact .cons ⟨hsame.1, ns, rfl, rfl⟩ hall
      · rw [he, hd]
        exact hwhy
  | case4 p inner rest htoo =>
    obtain ⟨⟨q, e⟩, rest', ⟨ns, rfl, rfl, hsame⟩, -, rfl⟩ := List.forall₂_cons_left_iff.1 h
    cases e with
    | file c' mode' => exact hsame.elim
    | dir inner' =>
      rw [collect, if_pos (hhere hsame.2.2.2 ▸ htoo)]
      exact (rfl : Errno.nameTooLong = .nameTooLong)
  | case5 p inner rest hshort ih =>
    obtain ⟨⟨q, e⟩, rest', ⟨ns, rfl, rfl, hsame⟩, hrest, rfl⟩ := List.forall₂_cons_left_iff.1 h
    cases e with
    | file c' mode' => exact hsame.elim
    | dir inner' =>
      rw [collect, if_neg (hhere hsame.2.2.2 ▸ hshort)]
      obtain ⟨hinner, hinner', hlook, hlevel⟩ := hsame
      exact ih (List.rel_append (children_agree hinner hinner' hlook hlevel) hrest)

/-- Two directories with the same below them. -/
structure SameBelow (dir dir' : Path) (f g : Folder) : Prop where
  /-- The same is at places below them. -/
  look : ∀ ns, f.look (dir.parts ++ ns) = g.look (dir'.parts ++ ns)
  /-- What is there can be reached from both, or from neither. -/
  level : ∀ ns, f.look (dir.parts ++ ns) ≠ none → Level dir dir' ns
  /-- One has the names of a file system. -/
  names : ∀ inner, f.get? dir.parts = some (.dir inner) → inner.WellFormed
  /-- So has the other. -/
  names' : ∀ inner, g.get? dir'.parts = some (.dir inner) → inner.WellFormed

/-- Corresponding directories with the same below them have the same files in the same order. -/
theorem files_agree {P V : List Text → List Text → Prop} {cwd cwd' : Spot} (hP : Mirror P)
    (h : f.Mirrors P V g) (hdir : dir.Facing P dir') (hbelow : SameBelow dir dir' f g) :
    Agree OsFault.Same (List.Forall₂ (SameFound dir dir')) (files f cwd dir) (files g cwd' dir') := by
  rw [files, files, Folder.readDir, Folder.readDir]
  rcases Folder.stat_agree hP h hdir with ⟨e, hs, hs'⟩ | ⟨c, c', mode, hs, hs'⟩ |
    ⟨inner, inner', hs, hs'⟩
  · rw [hs, hs']
    exact (rfl : e = e)
  · rw [hs, hs']
    exact (rfl : Errno.notDirectory = .notDirectory)
  · rw [hs, hs']
    obtain ⟨-, -, hget⟩ := (Folder.stat_eq_ok_iff hdir.left).1 hs
    obtain ⟨-, -, hget'⟩ := (Folder.stat_eq_ok_iff hdir.right).1 hs'
    have hinner (ns : List Text) : f.look (dir.parts ++ ns) = inner.look ns := by
      rw [Folder.look, Folder.get?_append_of_dir hget, Folder.look]
    have hinner' (ns : List Text) : g.look (dir'.parts ++ ns) = inner'.look ns := by
      rw [Folder.look, Folder.get?_append_of_dir hget', Folder.look]
    have hchildren : List.Forall₂ (SamePending dir dir') (children (dir.descend []) inner)
        (children (dir'.descend []) inner') := by
      refine children_agree (hbelow.names inner hget) (hbelow.names' inner' hget') (fun ns => ?_)
        fun ns hns => ?_
      · rw [← hinner, ← hinner']
        exact hbelow.look ns
      · rw [List.nil_append]
        exact hbelow.level ns (by rwa [hinner])
    rw [Path.descend_nil, Path.descend_nil] at hchildren
    exact collect_agree hchildren

/-- Files of corresponding directories that are the same and count as files alike. -/
structure FoundAlike (dir dir' : Path) (isFile isFile' : Text → Bool) (p q : Path) : Prop where
  /-- The same names lead to them. -/
  names : ∃ ns, (∀ n ∈ ns, IsName n) ∧ p = dir.descend ns ∧ q = dir'.descend ns
  /-- They count as files, or as devices. -/
  isFile : isFile p.toText = isFile' q.toText

theorem files_alike {P V : List Text → List Text → Prop} {cwd cwd' : Spot} (hP : Mirror P)
    (h : f.Mirrors P V g) (hdir : dir.Facing P dir') (hbelow : SameBelow dir dir' f g) :
    Agree OsFault.Same
      (List.Forall₂ fun x y => x.content = y.content ∧
        FoundAlike dir dir' (f.isFileText cwd) (g.isFileText cwd') x.path y.path)
      (files f cwd dir) (files g cwd' dir') := by
  have hagree : Agree OsFault.Same (List.Forall₂ (SameFound dir dir')) (files f cwd dir)
      (files g cwd' dir') := files_agree hP h hdir hbelow
  rcases hagree.cases with ⟨xs, ys, hxs, hys, hall⟩ | ⟨e, e', he, he', hwhy⟩
  · rw [hxs, hys]
    have hread {k : Folder} {spot : Spot} {p : Path} {zs : List FoundFile}
        (hzs : files k spot p = .ok zs) : ∃ inner, k.readDir spot p = .ok inner := by
      rw [files] at hzs
      cases hdir : k.readDir spot p with
      | error e => rw [hdir] at hzs; cases hzs
      | ok inner => exact ⟨inner, rfl⟩
    obtain ⟨inner, hinner⟩ := hread hxs
    obtain ⟨inner', hinner'⟩ := hread hys
    have hget := Folder.get?_of_readDir hdir.left hinner
    have hget' := Folder.get?_of_readDir hdir.right hinner'
    have hwell := hbelow.names inner hget
    have hwell' := hbelow.names' inner' hget'
    obtain ⟨hmem, hshort⟩ := mem_files hinner hwell hxs
    have hlisted : ∀ x ∈ xs, (∃ ns mode, inner.get? ns = some (.file x.content mode) ∧
        x.path = dir.descend ns) ∧ x.path.isTooLong = false :=
      fun x hx => ⟨(hmem x).1 hx, hshort x hx⟩
    refine ((List.forall₂_and_left _ _).2 ⟨hlisted, hall⟩).imp ?_
    rintro x y ⟨⟨⟨ns, mode, hfile, hx⟩, htoo⟩, hcontent, ns', hx', hy⟩
    obtain rfl : ns = ns' := by
      rw [hx] at hx'
      exact List.append_cancel_left (congrArg Path.parts hx')
    -- The counterpart is a file of the same mode.
    have hlook := hbelow.look ns
    rw [Folder.look, Folder.look, Folder.get?_append_of_dir hget, Folder.get?_append_of_dir hget',
      hfile] at hlook
    have hfile' := Folder.look_eq_file_iff.1 (Eq.symm hlook)
    have hlevel := hbelow.level ns (by
      rw [Folder.look, Folder.get?_append_of_dir hget, hfile]
      exact Option.some_ne_none _)
    rw [hx] at htoo
    refine ⟨hcontent, ⟨ns, hwell.isName_of_get? hfile, hx, hy⟩, ?_⟩
    rw [hx, hy, Folder.isFileText_eq hinner (fun z hz => (hdir.left.names z hz).1) hwell hfile htoo,
      Folder.isFileText_eq hinner' (fun z hz => (hdir.right.names z hz).1) hwell' hfile'
        (hlevel ▸ htoo)]
  · rw [he, he']
    exact hwhy

end
end Listing
end AmbientBundle
