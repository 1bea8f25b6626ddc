import Mathlib.Data.List.Lex
import AmbientBundle.Proofs.FileTree.MirrorListing

/-!
# The order of a listing

Paths below a directory are compared name by name, and names code point by code point
(`Precedes`).  This is not the order of the paths as texts, in which `a-b` comes before `a/b`.

`Folder.inPlace` is the plain way to list a directory: it sorts the entries, and puts in the place
of each subdirectory what is below it.  The result is strictly increasing (`pairwise_inPlace`) and
holds the files and nothing else (`mem_inPlace`).  There is only one such list, so it is the same
for all trees of one shape, in whatever order their entries are enumerated (`inPlace_congr`).

`collect` keeps a list of entries instead, which may stand at different depths.  It lists what the
plain way lists (`paths_collect`), unless a path is too long for the file system
(`collect_cases`).
-/

namespace AmbientBundle

/-! ## The order of paths -/

/-- Whether a text comes before another one, code point by code point. -/
def Text.Before : Text → Text → Prop := List.Lex fun a b : Char => a.toNat < b.toNat

theorem Text.before_of_le {t u : Text} (hle : Text.le t u = true) (hne : t ≠ u) :
    Text.Before t u := by
  induction t generalizing u with
  | nil =>
    cases u with
    | nil => exact absurd rfl hne
    | cons b bs => exact .nil
  | cons a as ih =>
    cases u with
    | nil => cases hle
    | cons b bs =>
      by_cases hab : a = b
      · subst hab
        rw [Text.le, if_pos rfl] at hle
        exact .cons (ih hle fun heq => hne (by rw [heq]))
      · rw [Text.le, if_neg hab, decide_eq_true_eq] at hle
        exact .rel hle

namespace Listing

/-- Whether names come before others: where they first differ, one of them ends or has the name
that comes before. -/
def Precedes : List Text → List Text → Prop := List.Lex Text.Before

instance asymmCodePoint : Std.Asymm fun a b : Char => a.toNat < b.toNat :=
  ⟨fun _ _ => Nat.lt_asymm⟩
instance asymmBefore : Std.Asymm Text.Before := inferInstanceAs (Std.Asymm (List.Lex _))
instance asymmPrecedes : Std.Asymm Precedes := inferInstanceAs (Std.Asymm (List.Lex _))

/-! ## Listing in place -/

theorem pairwise_sortedByName {α : Type} (es : List (Text × α)) :
    (es.mergeSort fun d e => Text.le d.1 e.1).Pairwise fun d e => Text.le d.1 e.1 = true := by
  refine List.pairwise_mergeSort ?_ ?_ es
  · exact fun _ _ _ => Text.le_trans
  · intro d e
    rw [Bool.or_eq_true]
    exact Text.le_total d.1 e.1

/-- Branches in the order of their names, each name in front of what is in its branch. -/
def spread (bs : List (Text × List (List Text))) : List (List Text) :=
  (bs.mergeSort fun b c => Text.le b.1 c.1).flatMap fun b => b.2.map (b.1 :: ·)

theorem mem_spread {bs : List (Text × List (List Text))} {ns : List Text} :
    ns ∈ spread bs ↔ ∃ b ∈ bs, ∃ ms ∈ b.2, b.1 :: ms = ns := by
  simp only [spread, List.mem_flatMap, List.mem_map, List.mem_mergeSort]

/-- Increasing branches with different names make an increasing list. -/
theorem pairwise_spread {bs : List (Text × List (List Text))} (hnames : (bs.map Prod.fst).Nodup)
    (h : ∀ b ∈ bs, b.2.Pairwise Precedes) : (spread bs).Pairwise Precedes := by
  have hperm := List.mergeSort_perm bs fun b c => Text.le b.1 c.1
  have hsorted := pairwise_sortedByName bs
  have hdistinct := List.pairwise_map.1 ((hperm.map Prod.fst).nodup_iff.2 hnames)
  rw [spread, List.pairwise_flatMap]
  -- Within a branch the name in front is the same, and between branches the names decide.
  refine ⟨fun b hb => ?_, (hsorted.and hdistinct).imp fun hbc => ?_⟩
  · exact List.pairwise_map.2 ((h b (hperm.mem_iff.1 hb)).imp fun hlt => .cons hlt)
  · intro x hx y hy
    obtain ⟨ns, _, rfl⟩ := List.mem_map.1 hx
    obtain ⟨ms, _, rfl⟩ := List.mem_map.1 hy
    exact .rel (Text.before_of_le hbc.1 hbc.2)

end Listing

namespace Folder

open Listing (spread Precedes)

/-- The names in a directory, each with the files below it: the file itself, or what is below a
subdirectory. -/
def branches : Folder → List (Text × List (List Text))
  | .nil => []
  | .file n _ _ rest => (n, [[]]) :: rest.branches
  | .dir n inner rest => (n, spread inner.branches) :: rest.branches

/-- The files below a directory by the names that lead to them, each subdirectory expanded in its
place among its sorted siblings. -/
def inPlace (f : Folder) : List (List Text) := spread f.branches

end Folder

/-- The files at or below an entry. -/
def Entry.inPlace : Entry → List (List Text)
  | .file .. => [[]]
  | .dir f => f.inPlace

namespace Folder

open Listing (spread Precedes mem_spread pairwise_spread)

variable {f g : Folder}

theorem branches_eq (f : Folder) : f.branches = f.entries.map fun e => (e.1, e.2.inPlace) := by
  induction f with
  | nil => rfl
  | file n c mode rest ih => rw [branches, entries, List.map_cons, ih]; rfl
  | dir n inner rest _ ih => rw [branches, entries, List.map_cons, ih]; rfl

theorem mem_inPlace_cons {n : Text} {ns : List Text} :
    n :: ns ∈ f.inPlace ↔ ∃ e, (n, e) ∈ f.entries ∧ ns ∈ e.inPlace := by
  rw [inPlace, mem_spread, branches_eq]
  constructor
  · rintro ⟨b, hb, ms, hms, heq⟩
    obtain ⟨⟨m, e⟩, he, rfl⟩ := List.mem_map.1 hb
    cases heq
    exact ⟨e, he, hms⟩
  · rintro ⟨e, he, hns⟩
    exact ⟨_, List.mem_map_of_mem he, ns, hns, rfl⟩

/-- The list holds the files and nothing else. -/
theorem mem_inPlace (hf : f.WellFormed) {ns : List Text} :
    ns ∈ f.inPlace ↔ f.hasFile ns = true := by
  induction ns generalizing f with
  | nil =>
    rw [inPlace, mem_spread]
    constructor
    · rintro ⟨b, _, ms, _, heq⟩
      cases heq
    · intro hfile
      cases hfile
  | cons n rest ih =>
    rw [mem_inPlace_cons]
    constructor
    · rintro ⟨e, he, hrest⟩
      have hfind := hf.find?_of_mem he
      cases e with
      | file c mode =>
        rw [Entry.inPlace, List.mem_singleton] at hrest
        rw [hrest, hasFile, get?_singleton, hfind]
      | dir inner =>
        rw [hasFile, get?_cons_of_dir hfind]
        exact (ih (hf.inner he)).1 hrest
    · intro hfile
      obtain ⟨c, mode, hget⟩ := hasFile_iff.1 hfile
      cases (holds_dir_iff hf).2 hget with
      | @dir _ _ e _ he hholds =>
        refine ⟨e, he, ?_⟩
        cases hholds with
        | file => exact List.mem_singleton_self _
        | dir hmem hbelow =>
          refine (ih (hf.inner he)).2 (hasFile_iff.2 ⟨c, mode, ?_⟩)
          exact (holds_dir_iff (hf.inner he)).1 (.dir hmem hbelow)

theorem nodup_branches (hf : f.WellFormed) : (f.branches.map Prod.fst).Nodup := by
  rw [branches_eq, List.map_map]
  exact hf.nodup

theorem pairwise_branches (hf : f.WellFormed) : ∀ b ∈ f.branches, b.2.Pairwise Precedes := by
  induction f with
  | nil => exact fun b hb => absurd hb List.not_mem_nil
  | file n c mode rest ih =>
    intro b hb
    rcases List.mem_cons.1 hb with rfl | hb
    · exact List.pairwise_singleton _ _
    · exact ih hf.2.2 b hb
  | dir n inner rest ihinner ih =>
    obtain ⟨_, _, hinner, hrest⟩ := hf
    intro b hb
    rcases List.mem_cons.1 hb with rfl | hb
    · exact pairwise_spread (nodup_branches hinner) (ihinner hinner)
    · exact ih hrest b hb

/-- The list is strictly increasing. -/
theorem pairwise_inPlace (hf : f.WellFormed) : f.inPlace.Pairwise Precedes :=
  pairwise_spread (nodup_branches hf) (pairwise_branches hf)

theorem nodup_inPlace (hf : f.WellFormed) : f.inPlace.Nodup := by
  refine (pairwise_inPlace hf).imp fun hlt heq => ?_
  rw [heq] at hlt
  exact Std.Asymm.asymm _ _ hlt hlt

/-- The list depends on the shape of the tree only, and not on the order of its entries. -/
theorem inPlace_congr (hf : f.WellFormed) (hg : g.WellFormed) (h : f.SameShape g) :
    f.inPlace = g.inPlace := by
  -- Two strictly increasing lists with the same members are the same list.
  refine (pairwise_inPlace hf).eq_of_mem_iff (pairwise_inPlace hg) fun ns => ?_
  rw [mem_inPlace hf, mem_inPlace hg, h.hasFile]

end Folder

/-! ## The walk -/

namespace Listing

theorem perm_insertByName (e : Text × Entry) (es : List (Text × Entry)) :
    (insertByName e es).Perm (e :: es) := by
  induction es with
  | nil => exact .refl _
  | cons d rest ih =>
    rw [insertByName]
    split
    · exact .refl _
    · exact (ih.cons d).trans (.swap e d rest)

theorem perm_sortByName (es : List (Text × Entry)) : (sortByName es).Perm es := by
  induction es with
  | nil => exact .refl _
  | cons e rest ih => exact (perm_insertByName e _).trans (ih.cons e)

/-- Entries with different names can be sorted in one way only. -/
theorem sortByName_eq {es : List (Text × Entry)} (hnames : (es.map Prod.fst).Nodup) :
    sortByName es = es.mergeSort fun d e => Text.le d.1 e.1 := by
  have hperm := List.mergeSort_perm es fun d e => Text.le d.1 e.1
  have hsorted : (sortByName es).Pairwise fun d e => Text.le d.1 e.1 = true := by
    have hnamed := List.pairwise_insertionSort (fun t u : Text => Text.le t u = true)
      (es.map Prod.fst)
    rw [← names_sortByName] at hnamed
    exact List.pairwise_map.1 hnamed
  refine List.Perm.eq_of_pairwise ?_ hsorted (pairwise_sortedByName es)
    ((perm_sortByName es).trans hperm.symm)
  intro d e hd he hde hed
  have hd := mem_sortByName.1 hd
  have he := hperm.mem_iff.1 he
  exact List.inj_on_of_nodup_map hnames hd he (Text.le_antisymm hde hed)

/-- Expanding a directory step by step comes to listing it in place. -/
theorem flatMap_children {f : Folder} (hf : f.WellFormed) (p : Path) :
    ((children p f).flatMap fun d => d.2.inPlace.map d.1.descend) = f.inPlace.map p.descend := by
  have hbranches : (f.branches.mergeSort fun b c => Text.le b.1 c.1) =
      (sortByName f.entries).map fun e => (e.1, e.2.inPlace) := by
    rw [sortByName_eq hf.nodup, Folder.branches_eq]
    refine (List.map_mergeSort ?_).symm
    exact fun _ _ _ _ => rfl
  rw [Folder.inPlace, spread, hbranches, children, List.flatMap_map, List.flatMap_map,
    List.map_flatMap]
  refine List.flatMap_congr fun e _ => ?_
  rw [List.map_map]
  exact List.map_congr_left fun ns _ => (p.descend_cons e.1 ns).symm

/-- Whether the directories among the entries still to be seen are well-formed. -/
def Sound (es : List (Path × Entry)) : Prop := ∀ d ∈ es, ∀ f, d.2 = .dir f → f.WellFormed

theorem sound_children {f : Folder} (hf : f.WellFormed) (p : Path) : Sound (children p f) := by
  intro d hd g hg
  obtain ⟨n, hmem, _⟩ := mem_children.1 hd
  exact hf.inner (hg ▸ hmem)

namespace Sound

variable {es : List (Path × Entry)}

theorem tail {d : Path × Entry} (h : Sound (d :: es)) : Sound es :=
  fun e he => h e (List.mem_cons_of_mem _ he)

theorem head {p : Path} {f : Folder} (h : Sound ((p, .dir f) :: es)) : f.WellFormed :=
  h _ List.mem_cons_self f rfl

theorem expand {p : Path} {f : Folder} (h : Sound ((p, .dir f) :: es)) :
    Sound (children p f ++ es) :=
  List.forall_mem_append.2 ⟨sound_children h.head p, h.tail⟩

end Sound

/-- A walk that ends well finds what is listed in place, in the same order. -/
theorem paths_collect {es : List (Path × Entry)} {files : List FoundFile} (hes : Sound es)
    (h : collect es = .ok files) :
    files.map FoundFile.path = es.flatMap fun d => d.2.inPlace.map d.1.descend := by
  fun_induction collect es generalizing files with
  | case1 =>
    cases h
    rfl
  | case2 p c mode rest hlong => cases h
  | case3 p c mode rest hshort ih =>
    cases hrest : collect rest with
    | error e => rw [hrest] at h; cases h
    | ok more =>
      rw [hrest] at h
      cases h
      rw [List.map_cons, ih hes.tail hrest, List.flatMap_cons, Entry.inPlace, List.map_singleton,
        p.descend_nil]
      rfl
  | case4 p inner rest hlong => cases h
  | case5 p inner rest hshort ih =>
    -- The entries of a directory take its place at the front, and so do the files below them.
    rw [ih hes.expand h, List.flatMap_append, flatMap_children hes.head, List.flatMap_cons]
    rfl

end Listing

/-! ## Paths that are too long -/

/-- Whether names lead from an entry to something; nothing is below a file. -/
def Entry.Leads : Entry → List Text → Prop
  | .file .., ns => ns = []
  | .dir f, ns => f.get? ns ≠ none

theorem Folder.get?_cons_ne_none {f : Folder} (hf : f.WellFormed) {n : Text} {ns : List Text} :
    f.get? (n :: ns) ≠ none ↔ ∃ e, (n, e) ∈ f.entries ∧ e.Leads ns := by
  constructor
  · intro hsome
    cases hfind : f.find? n with
    | none => exact absurd (by rw [Folder.get?, hfind]) hsome
    | some e =>
      refine ⟨e, Folder.mem_entries_of_find? hfind, ?_⟩
      rw [Folder.get?, hfind] at hsome
      cases e with
      | file c mode =>
        show ns = []
        by_contra hne
        exact hsome (if_neg hne)
      | dir inner => exact hsome
  · rintro ⟨e, he, hleads⟩
    rw [Folder.get?, hf.find?_of_mem he]
    cases e with
    | file c mode =>
      obtain rfl : ns = [] := hleads
      exact Option.some_ne_none _
    | dir inner => exact hleads

namespace Listing

/-- Whether no path is too long, of the entries still to be seen and of all that is below them. -/
def Fits (es : List (Path × Entry)) : Prop :=
  ∀ d ∈ es, ∀ ns, d.2.Leads ns → (d.1.descend ns).isTooLong = false

theorem fits_cons {d : Path × Entry} {es : List (Path × Entry)} :
    Fits (d :: es) ↔ (∀ ns, d.2.Leads ns → (d.1.descend ns).isTooLong = false) ∧ Fits es :=
  List.forall_mem_cons

theorem fits_append {es fs : List (Path × Entry)} : Fits (es ++ fs) ↔ Fits es ∧ Fits fs :=
  List.forall_mem_append

/-- Whether the paths below a directory are too long is asked of its entries. -/
theorem fits_children {f : Folder} (hf : f.WellFormed) {p : Path} (hp : p.isTooLong = false) :
    Fits (children p f) ↔ ∀ ns, f.get? ns ≠ none → (p.descend ns).isTooLong = false := by
  constructor
  · intro h ns hns
    cases ns with
    | nil => rwa [p.descend_nil]
    | cons n rest =>
      obtain ⟨e, he, hleads⟩ := (Folder.get?_cons_ne_none hf).1 hns
      rw [p.descend_cons]
      exact h _ (mem_children.2 ⟨n, he, rfl⟩) rest hleads
  · rintro h ⟨q, e⟩ hd ns hleads
    obtain ⟨n, he, rfl⟩ := mem_children.1 hd
    have hlead := h (n :: ns) ((Folder.get?_cons_ne_none hf).2 ⟨e, he, hleads⟩)
    rwa [p.descend_cons] at hlead

/-- A walk ends well if no path is too long, and otherwise with this as the reason. -/
theorem collect_cases {es : List (Path × Entry)} (hes : Sound es) :
    (Fits es ∧ ∃ files, collect es = .ok files) ∨
      ¬ Fits es ∧ ∃ e, collect es = .error e ∧ e.errno = .nameTooLong := by
  fun_induction collect es with
  | case1 => exact .inl ⟨fun d hd => absurd hd List.not_mem_nil, [], rfl⟩
  | case2 p c mode rest hlong =>
    refine .inr ⟨fun h => ?_, _, rfl, rfl⟩
    have hp := (fits_cons.1 h).1 [] rfl
    rw [p.descend_nil, hlong] at hp
    cases hp
  | case3 p c mode rest hshort ih =>
    have hp : ∀ ns, (Entry.file c mode).Leads ns → (p.descend ns).isTooLong = false := by
      rintro ns rfl
      rw [p.descend_nil]
      exact Bool.eq_false_iff.2 hshort
    rcases ih hes.tail with ⟨hfits, files, hok⟩ | ⟨hfits, e, herror, hwhy⟩
    · exact .inl ⟨fits_cons.2 ⟨hp, hfits⟩, _, by rw [hok]; rfl⟩
    · exact .inr ⟨fun h => hfits (fits_cons.1 h).2, e, by rw [herror]; rfl, hwhy⟩
  | case4 p inner rest hlong =>
    refine .inr ⟨fun h => ?_, _, rfl, rfl⟩
    have hp := (fits_cons.1 h).1 [] (Option.some_ne_none _)
    rw [p.descend_nil, hlong] at hp
    cases hp
  | case5 p inner rest hshort ih =>
    have hfits : Fits ((p, .dir inner) :: rest) ↔ Fits (children p inner ++ rest) := by
      rw [fits_cons, fits_append, fits_children hes.head (Bool.eq_false_iff.2 hshort)]
      exact Iff.rfl
    rw [hfits]
    exact ih hes.expand

end Listing

/-! ## Listing a directory -/

/-- Whether no path is too long, of a directory and of all that is below it. -/
def Folder.FitsBelow (f : Folder) (dir : Path) : Prop :=
  ∀ ns, f.get? ns ≠ none → (dir.descend ns).isTooLong = false

theorem Folder.SameShape.fitsBelow_iff {f g : Folder} (h : f.SameShape g) (dir : Path) :
    f.FitsBelow dir ↔ g.FitsBelow dir := by
  have hplace (ns : List Text) : f.get? ns = none ↔ g.get? ns = none := by
    rw [← Option.map_eq_none_iff, h ns, Option.map_eq_none_iff]
  simp only [Folder.FitsBelow, Ne, hplace]

namespace Listing

/-- A directory is listed in place if no path is too long, and otherwise this is the reason why it
is not listed. -/
theorem files_cases {root tree : Folder} {cwd : Spot} {dir : Path} (htree : tree.WellFormed)
    (hdir : root.readDir cwd dir = .ok tree) :
    (tree.FitsBelow dir ∧ ∃ files, Listing.files root cwd dir = .ok files ∧
      files.map FoundFile.path = tree.inPlace.map dir.descend) ∨
    ¬ tree.FitsBelow dir ∧
      ∃ e, Listing.files root cwd dir = .error e ∧ e.errno = .nameTooLong := by
  obtain ⟨hshort, -⟩ := Folder.readDir_eq_ok_iff.1 hdir
  have hsound := sound_children htree dir
  rw [Listing.files, hdir, Folder.FitsBelow, ← fits_children htree hshort]
  rcases collect_cases hsound with ⟨hfits, files, hfiles⟩ | hlong
  · refine .inl ⟨hfits, files, hfiles, ?_⟩
    rw [paths_collect hsound hfiles, flatMap_children htree]
  · exact .inr hlong

end Listing
end AmbientBundle
