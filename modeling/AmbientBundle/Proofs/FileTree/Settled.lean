import AmbientBundle.Proofs.FileTree.Listing
import AmbientBundle.Proofs.FileTree.Places

/-!
# Settled paths

A path is settled if it starts at the root and holds no `..`.  Such a path means one place, the
list of its parts, whatever the working directory is.  It can be used if neither
it nor one of its names is too long.

What the operations on a file tree do at a settled path is said here by what is seen at places:
`stat` finds what is at the place (`stat_eq_ok_iff`), `makeDirs` makes directories at and above it
and fails only if none is there in the end (`frame_makeDirs`, `makeDirs_eq_ok_iff`), `removeTree`
leaves nothing there or changes nothing (`removeTree_cases`), and `writeFile` changes the file at
the place and nothing else (`writeFile_eq_ok`).
-/

namespace AmbientBundle

/-! ## Settled and usable paths -/

namespace Path

/-- A path that means one place. -/
structure Settled (p : Path) : Prop where
  /-- It starts at the root. -/
  anchor : p.anchor = .root
  /-- Its parts can stand between slashes, and none leads up. -/
  names : ∀ x ∈ p.parts, Proper x ∧ x ≠ upPart

instance (n : Text) : Decidable (Proper n) := inferInstanceAs (Decidable (_ ∧ _))

instance (p : Path) : Decidable p.Settled :=
  decidable_of_iff (p.anchor = .root ∧ ∀ x ∈ p.parts, Proper x ∧ x ≠ upPart)
    ⟨fun h => ⟨h.1, h.2⟩, fun h => ⟨h.anchor, h.names⟩⟩

/-- A path that is not too long, and neither are its names. -/
def Usable (p : Path) : Prop := p.isTooLong = false ∧ ∀ x ∈ p.parts, Utf8.size x ≤ nameLimit

namespace Settled

variable {p : Path}

theorem isAbsolute (hp : p.Settled) : p.isAbsolute = true := by
  rw [Path.isAbsolute, hp.anchor]
  rfl

/-- A settled path does not depend on the working directory. -/
theorem start (hp : p.Settled) (cwd : Spot) : Folder.start cwd p = ⟨[], 0⟩ := by
  rw [Folder.start, if_pos hp.isAbsolute]

theorem eq_mk (hp : p.Settled) : p = ⟨.root, p.parts⟩ := by
  rw [← hp.anchor]

/-- Where a settled path goes through is settled. -/
theorem of_parts (hp : p.Settled) {qs : List Text} (hqs : ∀ x ∈ qs, x ∈ p.parts) :
    (Path.mk .root qs).Settled where
  anchor := rfl
  names := fun x hx => hp.names x (hqs x hx)

theorem parent (hp : p.Settled) : p.parent.Settled := by
  have hparent := hp.of_parts fun _ hx => List.dropLast_subset p.parts hx
  rwa [show (Path.mk .root p.parts.dropLast) = p.parent by rw [Path.parent, hp.anchor]] at hparent

/-- One proper name further down. -/
theorem child (hp : p.Settled) {n : Text} (hn : Proper n ∧ n ≠ upPart) : (p.child n).Settled where
  anchor := hp.anchor
  names := by
    intro x hx
    rcases List.mem_append.1 hx with hx | hx
    · exact hp.names x hx
    · exact List.mem_singleton.1 hx ▸ hn

end Settled

end Path

namespace Folder

/-! ## Following a settled path -/

/-- What following a proper name comes to: nothing is there, a file is in the way, the name is too
long, or the way goes on below. -/
theorem walk_cons_cases (f : Folder) {n : Text} (hn : Path.Proper n ∧ n ≠ upPart)
    (place rest : List Text) :
    (f.look place = none ∧ f.walk ⟨place, 0⟩ (n :: rest) = .error .noEntry) ∨
      (f.fileAt place ≠ none ∧ f.walk ⟨place, 0⟩ (n :: rest) = .error .notDirectory) ∨
      (nameLimit < Utf8.size n ∧ f.walk ⟨place, 0⟩ (n :: rest) = .error .nameTooLong) ∨
      (f.look place = some none ∧ Utf8.size n ≤ nameLimit ∧
        f.walk ⟨place, 0⟩ (n :: rest) = f.walk ⟨place ++ [n], 0⟩ rest) := by
  rw [walk_cons_proper hn, fileAt, look]
  cases f.get? place with
  | none => exact Or.inl ⟨rfl, rfl⟩
  | some e =>
    cases e with
    | file c mode => exact Or.inr (Or.inl ⟨Option.some_ne_none _, rfl⟩)
    | dir inner =>
      by_cases hlong : nameLimit < Utf8.size n
      · exact Or.inr (Or.inr (Or.inl ⟨hlong, if_pos hlong⟩))
      · exact Or.inr (Or.inr (Or.inr ⟨rfl, Nat.not_lt.1 hlong, if_neg hlong⟩))

/-- A proper name can be followed from a directory if it is not too long. -/
theorem walk_cons_eq_ok_iff {f : Folder} {place rest : List Text} {n : Text} {t : Spot}
    (hn : Path.Proper n ∧ n ≠ upPart) :
    f.walk ⟨place, 0⟩ (n :: rest) = .ok t ↔
      f.look place = some none ∧ Utf8.size n ≤ nameLimit ∧
        f.walk ⟨place ++ [n], 0⟩ rest = .ok t := by
  rcases f.walk_cons_cases hn place rest with
    ⟨hnone, hwalk⟩ | ⟨hfile, hwalk⟩ | ⟨hlong, hwalk⟩ | ⟨hdir, hshort, hwalk⟩
  · rw [hwalk, hnone]
    exact ⟨fun h => (by cases h), fun h => (by cases h.1)⟩
  · rw [hwalk]
    refine ⟨fun h => (by cases h), fun h => absurd ?_ hfile⟩
    rw [fileAt, h.1]
    rfl
  · rw [hwalk]
    exact ⟨fun h => (by cases h), fun h => absurd hlong (Nat.not_lt.2 h.2.1)⟩
  · rw [hwalk]
    exact ⟨fun h => ⟨hdir, hshort, h⟩, fun h => h.2.2⟩

/-- Proper parts can be followed if they are not too long and lead through directories. -/
theorem walk_eq_ok_iff {f : Folder} {place ps : List Text} {t : Spot}
    (hps : ∀ x ∈ ps, Path.Proper x ∧ x ≠ upPart) :
    f.walk ⟨place, 0⟩ ps = .ok t ↔
      t = ⟨place ++ ps, 0⟩ ∧ (∀ x ∈ ps, Utf8.size x ≤ nameLimit) ∧
        ∀ ms n, ps = ms ++ [n] → f.look (place ++ ms) = some none := by
  induction ps generalizing place with
  | nil =>
    rw [walk, List.append_nil]
    constructor
    · intro h
      cases h
      exact ⟨rfl, fun x hx => absurd hx List.not_mem_nil,
        fun ms n hnil => absurd hnil.symm (List.append_ne_nil_of_right_ne_nil _ (List.cons_ne_nil _ _))⟩
    · rintro ⟨rfl, _, _⟩
      rfl
  | cons n rest ih =>
    rw [walk_cons_eq_ok_iff (hps n List.mem_cons_self),
      ih fun x hx => hps x (List.mem_cons_of_mem _ hx), List.append_assoc, List.singleton_append]
    constructor
    · rintro ⟨hdir, hshort, rfl, hrest, hthrough⟩
      refine ⟨rfl, List.forall_mem_cons.2 ⟨hshort, hrest⟩, fun ms k heq => ?_⟩
      cases ms with
      | nil => rwa [List.append_nil]
      | cons m ms =>
        obtain ⟨rfl, hrest'⟩ := List.cons.inj heq
        have hbelow := hthrough ms k hrest'
        rwa [List.append_assoc] at hbelow
    · rintro ⟨rfl, hshort, hthrough⟩
      obtain ⟨hn, hrest⟩ := List.forall_mem_cons.1 hshort
      refine ⟨?_, hn, rfl, hrest, fun ms k heq => ?_⟩
      · -- What holds the last part is at `place` or below it.
        rcases List.eq_nil_or_concat rest with rfl | ⟨front, last, rfl⟩
        · simpa using hthrough [] n rfl
        · have hlast := hthrough (n :: front) last (by simp)
          exact look_of_look_append (List.cons_ne_nil _ _) (by rw [hlast]; simp)
      · rw [List.append_assoc]
        exact hthrough (n :: ms) k (by rw [heq]; rfl)

/-- Parts are followed one after the other. -/
theorem walk_append_bind (f : Folder) (s : Spot) (ps qs : List Text) :
    f.walk s (ps ++ qs) = (f.walk s ps).bind fun t => f.walk t qs := by
  induction ps generalizing s with
  | nil => rfl
  | cons p rest ih =>
    rw [List.cons_append, walk, walk]
    cases f.entryAt s with
    | none => rfl
    | some e =>
      cases e with
      | file c mode => rfl
      | dir inner =>
        simp only [ih]
        split
        · rfl
        · split
          · rfl
          · cases enter s p with
            | error e => rfl
            | ok t => rfl

section

variable {f g : Folder} {cwd : Spot} {p : Path}

/-- A settled path that is not too long is followed to its place if directories lead there. -/
theorem walk_parts_eq_ok_iff (hp : p.Settled) {t : Spot} :
    (p.isTooLong = false ∧ f.walk ⟨[], 0⟩ p.parts = .ok t) ↔
      p.Usable ∧ t = ⟨p.parts, 0⟩ ∧ ∀ ms n, p.parts = ms ++ [n] → f.look ms = some none := by
  rw [walk_eq_ok_iff hp.names, Path.Usable]
  simp only [List.nil_append]
  constructor
  · rintro ⟨hshort, ht, hnames, hthrough⟩
    exact ⟨⟨hshort, hnames⟩, ht, hthrough⟩
  · rintro ⟨⟨hshort, hnames⟩, ht, hthrough⟩
    exact ⟨hshort, ht, hnames, hthrough⟩

/-- A settled path leads to what is at its place. -/
theorem stat_eq_ok_iff (hp : p.Settled) {t : Spot} {e : Entry} :
    f.stat cwd p = .ok (t, e) ↔
      p.Usable ∧ t = ⟨p.parts, 0⟩ ∧ f.get? p.parts = some e := by
  rw [stat_eq_ok_iff_walk, hp.start, ← and_assoc, walk_parts_eq_ok_iff hp]
  constructor
  · rintro ⟨⟨husable, rfl, -⟩, hentry⟩
    exact ⟨husable, rfl, hentry⟩
  · rintro ⟨husable, rfl, hget⟩
    refine ⟨⟨husable, rfl, fun ms n heq => look_of_look_append (List.cons_ne_nil n []) ?_⟩, hget⟩
    rw [← heq, Ne, look_eq_none_iff, hget]
    exact Option.some_ne_none _

/-- Something is at a settled path if it can be used and something is at its place. -/
theorem isThere_iff (hp : p.Settled) :
    f.isThere cwd p = true ↔ p.Usable ∧ f.look p.parts ≠ none := by
  rw [isThere, Ne, look_eq_none_iff]
  cases hstat : f.stat cwd p with
  | error e =>
    refine ⟨fun h => (by cases h), ?_⟩
    rintro ⟨husable, hsome⟩
    cases hget : f.get? p.parts with
    | none => exact absurd hget hsome
    | some d =>
      rw [(stat_eq_ok_iff hp).2 ⟨husable, rfl, hget⟩] at hstat
      cases hstat
  | ok found =>
    obtain ⟨husable, _, hget⟩ := (stat_eq_ok_iff hp).1 hstat
    exact ⟨fun _ => ⟨husable, by rw [hget]; exact Option.some_ne_none _⟩, fun _ => rfl⟩

/-- A directory is at a settled path if it can be used and a directory is at its place. -/
theorem isDir_iff (hp : p.Settled) :
    f.isDir cwd p = true ↔ p.Usable ∧ f.look p.parts = some none := by
  rw [isDir, look_eq_dir_iff]
  constructor
  · intro h
    split at h
    · next hstat =>
      obtain ⟨husable, _, hget⟩ := (stat_eq_ok_iff hp).1 hstat
      exact ⟨husable, _, hget⟩
    · cases h
  · rintro ⟨husable, g, hget⟩
    rw [(stat_eq_ok_iff hp).2 ⟨husable, rfl, hget⟩]

theorem isDir_eq_false_of_isThere (hp : p.Settled) (h : f.isThere cwd p = false) :
    f.isDir cwd p = false := by
  rw [Bool.eq_false_iff] at h ⊢
  intro hdir
  obtain ⟨husable, hlook⟩ := (isDir_iff hp).1 hdir
  exact h ((isThere_iff hp).2 ⟨husable, by rw [hlook]; exact Option.some_ne_none _⟩)

/-- The place of the last part of a settled path is where the path leads, if the directory above is
there. -/
theorem holder_eq_walk (hp : p.Settled) (hne : p.parts ≠ []) :
    f.holder cwd p = if p.isTooLong then .error .nameTooLong
      else (f.walk ⟨[], 0⟩ p.parts).map fun s => some s.place := by
  obtain ⟨ms, n, hparts⟩ := (List.eq_nil_or_concat p.parts).resolve_left hne
  rw [List.concat_eq_append] at hparts
  obtain ⟨hproper, hup⟩ := hp.names n (by rw [hparts]; simp)
  have hplain : ¬ (n = [] ∨ n = herePart) := by
    have hpart := hproper.1
    simpa [Path.isPart] using hpart
  have hreverse : p.parts.reverse = n :: ms.reverse := by rw [hparts]; simp
  rw [holder, hp.start, hreverse, hparts, walk_append_bind]
  simp only [List.reverse_reverse]
  cases f.walk ⟨[], 0⟩ ms with
  | error e => rfl
  | ok s =>
    simp only [Except.bind, walk]
    cases f.entryAt s with
    | none => rfl
    | some e =>
      cases e with
      | file c mode => rfl
      | dir inner =>
        simp only [if_neg hup, if_neg hplain]
        cases enter s n with
        | error e => rfl
        | ok t => rfl

/-- A settled path has a holder if it can be used and the directory above its place is there. -/
theorem holder_eq_some_iff (hp : p.Settled) {place : List Text} :
    f.holder cwd p = .ok (some place) ↔
      p.Usable ∧ place = p.parts ∧ ∃ ms n, p.parts = ms ++ [n] ∧ f.look ms = some none := by
  rcases List.eq_nil_or_concat p.parts with hnil | ⟨ms, n, hparts⟩
  · have hnone : f.holder cwd p ≠ .ok (some place) := by
      rw [holder, hnil]
      intro h
      split at h
      · cases h
      · cases h
    refine ⟨fun h => absurd h hnone, ?_⟩
    rintro ⟨_, _, ms, n, heq, _⟩
    rw [hnil] at heq
    exact absurd heq.symm (List.append_ne_nil_of_right_ne_nil _ (List.cons_ne_nil _ _))
  · rw [List.concat_eq_append] at hparts
    rw [holder_eq_walk hp (by rw [hparts]; simp)]
    constructor
    · intro h
      split at h
      · cases h
      · next hshort =>
        cases hwalk : f.walk ⟨[], 0⟩ p.parts with
        | error e => rw [hwalk] at h; cases h
        | ok s =>
          obtain ⟨husable, rfl, hthrough⟩ :=
            (walk_parts_eq_ok_iff hp).1 ⟨Bool.eq_false_iff.2 hshort, hwalk⟩
          rw [hwalk] at h
          cases h
          exact ⟨husable, rfl, ms, n, hparts, hthrough ms n hparts⟩
    · rintro ⟨husable, rfl, front, last, heq, hdir⟩
      have hthrough : ∀ front' last', p.parts = front' ++ [last'] → f.look front' = some none := by
        intro front' last' heq'
        rw [heq] at heq'
        obtain ⟨rfl, _⟩ := List.append_inj' heq' rfl
        exact hdir
      obtain ⟨hshort, hwalk⟩ := (walk_parts_eq_ok_iff hp).2 ⟨husable, rfl, hthrough⟩
      rw [hshort, hwalk]
      rfl

/-! ## Files -/

theorem get?_of_readDir (hp : p.Settled) (h : f.readDir cwd p = .ok g) :
    f.get? p.parts = some (.dir g) := by
  rw [readDir] at h
  split at h
  · cases h
  · cases h
  · next hstat =>
    cases h
    exact ((stat_eq_ok_iff hp).1 hstat).2.2

/-- A file is read from a settled path if it can be used and a file is at its place. -/
theorem readFile_eq_ok_iff (hp : p.Settled) {c : Bytes} :
    f.readFile cwd p = .ok c ↔ p.Usable ∧ ∃ mode, f.look p.parts = some (some (c, mode)) := by
  rw [readFile]
  constructor
  · intro h
    split at h
    · cases h
    · cases h
    · next hstat =>
      cases h
      obtain ⟨husable, _, hget⟩ := (stat_eq_ok_iff hp).1 hstat
      exact ⟨husable, _, look_eq_file_iff.2 hget⟩
  · rintro ⟨husable, mode, hlook⟩
    rw [(stat_eq_ok_iff hp).2 ⟨husable, rfl, look_eq_file_iff.1 hlook⟩]

/-- Writing to a settled path changes the file at its place and nothing else.  What the file keeps
of the bytes is up to its mode, and a new one keeps all. -/
theorem writeFile_eq_ok (hp : p.Settled) {c : Bytes} (h : f.writeFile cwd p c = .ok g) :
    p.Usable ∧ ∃ mode,
      (f.look p.parts = none ∧ mode = .data ∨ ∃ old, f.look p.parts = some (some (old, mode))) ∧
      ∀ ns, g.look ns =
        if ns = p.parts then some (some (mode.kept c, mode)) else f.look ns := by
  rw [writeFile] at h
  cases hholder : f.holder cwd p with
  | error e => rw [hholder] at h; cases h
  | ok found =>
    rw [hholder] at h
    cases found with
    | none => cases h
    | some place =>
      obtain ⟨husable, rfl, ms, n, hparts, hdir⟩ := (holder_eq_some_iff hp).1 hholder
      refine ⟨husable, ?_⟩
      simp only at h
      cases hget : f.get? p.parts with
      | none =>
        rw [hget] at h
        cases h
        have hnone := look_eq_none_iff.2 hget
        refine ⟨.data, Or.inl ⟨hnone, rfl⟩, fun ns => ?_⟩
        rw [hparts] at hnone ⊢
        exact look_put_leaf hdir (by rw [hnone]; exact (Option.some_ne_none _).symm) (Or.inr rfl) ns
      | some e =>
        rw [hget] at h
        cases e with
        | dir inner => cases h
        | file old mode =>
          cases h
          have hfile := look_eq_file_iff.2 hget
          refine ⟨mode, Or.inr ⟨old, hfile⟩, fun ns => ?_⟩
          rw [hparts] at hfile ⊢
          refine look_put_leaf hdir (fun hlook => ?_) (Or.inr rfl) ns
          rw [hfile] at hlook
          cases hlook

/-! ## Making directories -/

/-- A directory is made at a settled path that can be used, in a directory, where nothing is. -/
theorem makeDir_eq_ok (hp : p.Settled) (h : f.makeDir cwd p = .ok g) :
    p.Usable ∧ f.look p.parts = none ∧
      ∀ ns, g.look ns = if ns = p.parts then some none else f.look ns := by
  rw [makeDir] at h
  cases hholder : f.holder cwd p with
  | error e => rw [hholder] at h; cases h
  | ok found =>
    rw [hholder] at h
    cases found with
    | none => cases h
    | some place =>
      obtain ⟨husable, rfl, ms, n, hparts, hdir⟩ := (holder_eq_some_iff hp).1 hholder
      simp only at h
      cases hget : f.get? p.parts with
      | some e => rw [hget] at h; cases h
      | none =>
        rw [hget] at h
        cases h
        have hnone := look_eq_none_iff.2 hget
        refine ⟨husable, hnone, fun ns => ?_⟩
        rw [hparts] at hnone ⊢
        exact look_put_leaf hdir (by rw [hnone]; exact (Option.some_ne_none _).symm) (Or.inl rfl) ns

/-- Where something is no directory is made. -/
theorem makeDir_of_isThere (hp : p.Settled) (h : f.isThere cwd p = true) :
    f.makeDir cwd p = .error .alreadyExists := by
  obtain ⟨husable, hlook⟩ := (isThere_iff hp).1 h
  rw [makeDir]
  rcases List.eq_nil_or_concat p.parts with hnil | ⟨ms, n, hparts⟩
  · have hholder : f.holder cwd p = .ok none := by
      rw [holder, hnil, husable.1]
      rfl
    rw [hholder]
  · rw [List.concat_eq_append] at hparts
    have hdir : f.look ms = some none := by
      rw [hparts] at hlook
      exact look_of_look_append (List.cons_ne_nil _ _) hlook
    rw [(holder_eq_some_iff hp).2 ⟨husable, rfl, ms, n, hparts, hdir⟩]
    cases hget : f.get? p.parts with
    | none => exact absurd (look_eq_none_iff.2 hget) hlook
    | some e => simp only [hget]

/-- A directory that is made is new at its path, and it is there. -/
theorem frame_makeDir (hp : p.Settled) (h : f.makeDir cwd p = .ok g) :
    Frame (fun _ => False) (· <+: p.parts) f g ∧ g.isDir cwd p = true := by
  obtain ⟨husable, hnone, hlook⟩ := makeDir_eq_ok hp h
  refine ⟨fun ns _ => ?_, (isDir_iff hp).2 ⟨husable, by rw [hlook, if_pos rfl]⟩⟩
  by_cases hns : ns = p.parts
  · subst hns
    exact Or.inr ⟨List.prefix_rfl, hnone, by rw [hlook, if_pos rfl]⟩
  · exact Or.inl (by rw [hlook, if_neg hns])

/-- Where the directory above is missing there is no directory. -/
theorem isDir_eq_false_of_makeDir (hp : p.Settled) (h : f.makeDir cwd p = .error .noEntry) :
    f.isDir cwd p = false := by
  refine isDir_eq_false_of_isThere hp ?_
  rw [Bool.eq_false_iff]
  intro hthere
  rw [makeDir_of_isThere hp hthere] at h
  cases h

/-- Only a missing directory above is a reason to make more than one directory. -/
theorem makeDirsFrom_of_refused {anchor : Anchor} {last : Text} {up : List Text} {e : Errno}
    (h : f.makeDir cwd ⟨anchor, (last :: up).reverse⟩ = .error e) (he : e ≠ .noEntry) :
    makeDirsFrom cwd anchor (last :: up) f =
      if f.isDir cwd ⟨anchor, (last :: up).reverse⟩ = true then (.ok (), f)
      else (.error (.about e ⟨anchor, (last :: up).reverse⟩), f) := by
  rw [makeDirsFrom, h]
  cases e with
  | noEntry => exact absurd rfl he
  | _ => rfl

/-- An attempt that leaves it at the directory that is there, if there is one. -/
theorem made_of_isDir {region grown : List Text → Prop} {k : Folder} {e : OsFault}
    {r : Except OsFault Unit} (hgrown : Frame region grown f k)
    (h : (if k.isDir cwd p = true then (.ok (), k) else (.error e, k)) = (r, g)) :
    Frame region grown f g ∧ (r = .ok () ↔ g.isDir cwd p = true) := by
  split at h
  · next hdir =>
    cases h
    exact ⟨hgrown, fun _ => hdir, fun _ => rfl⟩
  · next hdir =>
    cases h
    exact ⟨hgrown, fun hr => (by cases hr), fun hthere => absurd hthere hdir⟩

/-- What making a directory and those above it does: directories may be new at and above the
path, and it fails exactly if there is no directory at the path in the end. -/
theorem makeDirsFrom_spec {rev : List Text} (hp : (Path.mk .root rev.reverse).Settled)
    {r : Except OsFault Unit} (h : makeDirsFrom cwd .root rev f = (r, g)) :
    Frame (fun _ => False) (· <+: rev.reverse) f g ∧
      (r = .ok () ↔ g.isDir cwd ⟨.root, rev.reverse⟩ = true) := by
  induction rev generalizing f g r with
  | nil =>
    cases h
    refine ⟨.refl _ _ _, fun _ => ?_, fun _ => rfl⟩
    exact (isDir_iff hp).2 ⟨⟨by decide, fun x hx => absurd hx List.not_mem_nil⟩, look_nil _⟩
  | cons last up ih =>
    cases hmake : f.makeDir cwd ⟨.root, (last :: up).reverse⟩ with
    | ok made =>
      rw [makeDirsFrom, hmake] at h
      cases h
      obtain ⟨hframe, hdir⟩ := frame_makeDir hp hmake
      exact ⟨hframe, fun _ => hdir, fun _ => rfl⟩
    | error e =>
      by_cases he : e = .noEntry
      · subst he
        rcases habove : makeDirsFrom cwd .root up f with ⟨r', above⟩
        have hup : (Path.mk .root up.reverse).Settled :=
          hp.of_parts fun x hx => by rw [List.reverse_cons]; exact List.mem_append_left _ hx
        obtain ⟨hframe, -⟩ := ih hup habove
        have hgrown : Frame (fun _ => False) (· <+: (last :: up).reverse) f above :=
          hframe.mono (fun _ => id) fun ns hns => hns.trans (by simp)
        rw [makeDirsFrom, hmake] at h
        simp only [habove] at h
        cases r' with
        | error e' =>
          cases h
          refine ⟨hgrown, fun hr => (by cases hr), fun hdir => ?_⟩
          -- The path itself is as it was, and no directory was there.
          have hmissing := isDir_eq_false_of_makeDir hp hmake
          obtain ⟨husable, hlook⟩ := (isDir_iff hp).1 hdir
          rcases hframe (last :: up).reverse not_false with hsame | ⟨hpre, -⟩
          · rw [(isDir_iff hp).2 ⟨husable, hsame ▸ hlook⟩] at hmissing
            cases hmissing
          · exact absurd hpre.length_le (by simp)
        | ok u =>
          cases hagain : above.makeDir cwd ⟨.root, (last :: up).reverse⟩ with
          | ok made =>
            simp only [hagain] at h
            cases h
            obtain ⟨hlast, hdir⟩ := frame_makeDir hp hagain
            exact ⟨hgrown.trans hlast, fun _ => hdir, fun _ => rfl⟩
          | error e' =>
            -- Whatever the reason, it is the directory at the path that decides.
            have hdecides : (decide (e' ≠ .noEntry) && above.isDir cwd ⟨.root, (last :: up).reverse⟩) =
                above.isDir cwd ⟨.root, (last :: up).reverse⟩ := by
              by_cases he' : e' = .noEntry
              · subst he'
                rw [isDir_eq_false_of_makeDir hp hagain, Bool.and_false]
              · rw [decide_eq_true he', Bool.true_and]
            simp only [hagain, hdecides] at h
            exact made_of_isDir hgrown h
      · rw [makeDirsFrom_of_refused hmake he] at h
        exact made_of_isDir (.refl _ _ _) h

/-- Making a directory and those above it leaves everything as it was, except for directories that
are new at and above the path. -/
theorem frame_makeDirs (hp : p.Settled) :
    Frame (fun _ => False) (· <+: p.parts) f (f.makeDirs cwd p).2 := by
  have hspec := @makeDirsFrom_spec f _ cwd p.parts.reverse
    (by rw [List.reverse_reverse, ← hp.eq_mk]; exact hp) _ rfl
  rw [List.reverse_reverse] at hspec
  rw [makeDirs, hp.anchor]
  exact hspec.1

/-- Making a directory succeeds exactly if it is there in the end. -/
theorem makeDirs_eq_ok_iff (hp : p.Settled) :
    (f.makeDirs cwd p).1 = .ok () ↔ (f.makeDirs cwd p).2.isDir cwd p = true := by
  have hspec := @makeDirsFrom_spec f _ cwd p.parts.reverse
    (by rw [List.reverse_reverse, ← hp.eq_mk]; exact hp) _ rfl
  rw [List.reverse_reverse, ← hp.eq_mk] at hspec
  rw [makeDirs, hp.anchor]
  exact hspec.2

/-! ## Removing directories -/

/-- A directory at a settled path is removed with everything below it.  If there is none, nothing
changes. -/
theorem removeTree_cases (hp : p.Settled) (hne : p.parts ≠ []) :
    (f.isDir cwd p = true ∧ (f.removeTree cwd p).1 = .ok () ∧
      ∀ ns, (f.removeTree cwd p).2.look ns = if p.parts <+: ns then none else f.look ns) ∨
    (f.isDir cwd p = false ∧ (f.removeTree cwd p).2 = f ∧
      ∃ e, (f.removeTree cwd p).1 = .error e ∧
        (f.stat cwd p = .error e.errno ∨ e.errno = .notDirectory ∧ f.isThere cwd p = true)) := by
  cases hstat : f.stat cwd p with
  | error e =>
    refine Or.inr ⟨by rw [isDir, hstat], by rw [removeTree, hstat], _, by rw [removeTree, hstat], ?_⟩
    exact Or.inl rfl
  | ok found =>
    obtain ⟨s, e⟩ := found
    cases e with
    | file c mode =>
      refine Or.inr ⟨by rw [isDir, hstat], by rw [removeTree, hstat], _, by rw [removeTree, hstat], ?_⟩
      exact Or.inr ⟨rfl, by rw [isThere, hstat]⟩
    | dir inner =>
      obtain ⟨husable, rfl, hget⟩ := (stat_eq_ok_iff hp).1 hstat
      obtain ⟨ms, n, hparts⟩ := (List.eq_nil_or_concat p.parts).resolve_left hne
      rw [List.concat_eq_append] at hparts
      have hdir : f.look ms = some none := by
        refine look_of_look_append (List.cons_ne_nil n []) ?_
        rw [← hparts, look_eq_dir_iff.2 ⟨inner, hget⟩]
        exact Option.some_ne_none _
      have hemptied : f.emptied ⟨p.parts, 0⟩ = f.put p.parts (.dir .nil) := by
        rw [emptied, if_neg (not_not_intro rfl), if_neg hne]
      have hleft : (f.put p.parts (.dir .nil)).look ms = some none := by
        rw [look_put_outside _ fun hpre => ?_, hdir]
        have hle := hpre.length_le
        rw [hparts, List.length_append, List.length_singleton] at hle
        omega
      have hholder : (f.put p.parts (.dir .nil)).holder cwd p = .ok (some p.parts) :=
        (holder_eq_some_iff hp).2 ⟨husable, rfl, ms, n, hparts, hleft⟩
      have hremove : f.removeTree cwd p = (.ok (), (f.put p.parts (.dir .nil)).remove p.parts) := by
        rw [removeTree, hstat]
        simp only [hemptied, hholder]
      refine Or.inl ⟨by rw [isDir, hstat], by rw [hremove], fun ns => ?_⟩
      rw [hremove]
      split
      · next hpre => exact look_remove_inside hne hpre
      · next hpre =>
        rw [look_remove_outside hpre, look_put_outside _ hpre]

/-- A walk along proper parts that misses something ends at an empty place. -/
theorem look_of_walk_noEntry {place ps : List Text} (hps : ∀ x ∈ ps, Path.Proper x ∧ x ≠ upPart)
    (h : f.walk ⟨place, 0⟩ ps = .error .noEntry) : f.look (place ++ ps) = none := by
  induction ps generalizing place with
  | nil => cases h
  | cons n rest ih =>
    rcases f.walk_cons_cases (hps n List.mem_cons_self) place rest with
      ⟨hnone, -⟩ | ⟨-, hwalk⟩ | ⟨-, hwalk⟩ | ⟨-, -, hwalk⟩
    · exact look_append_of_none hnone _
    · rw [hwalk] at h
      cases h
    · rw [hwalk] at h
      cases h
    · rw [hwalk] at h
      rw [← List.singleton_append, ← List.append_assoc]
      exact ih (fun x hx => hps x (List.mem_cons_of_mem _ hx)) h

theorem look_of_stat_noEntry (hp : p.Settled) (h : f.stat cwd p = .error .noEntry) :
    f.look p.parts = none := by
  rw [stat, hp.start] at h
  split at h
  · cases h
  · split at h
    · next hwalk =>
      cases h
      exact look_of_walk_noEntry hp.names hwalk
    · next hwalk =>
      obtain ⟨rfl, _, _⟩ := (walk_eq_ok_iff hp.names).1 hwalk
      split at h
      · next hentry => exact look_eq_none_iff.2 hentry
      · cases h

/-- The root stays, whatever becomes of its entries. -/
theorem removeTree_root (hp : p.Settled) (hnil : p.parts = []) :
    ∃ e, (f.removeTree cwd p).1 = .error e ∧ e.errno = .busy := by
  obtain ⟨anchor, parts⟩ := p
  obtain rfl : anchor = .root := hp.anchor
  obtain rfl : parts = [] := hnil
  exact ⟨.about .busy ⟨.root, []⟩, rfl, rfl⟩

/-- Nothing is at or below a directory that has been removed or was missing. -/
theorem look_removeTree_inside (hp : p.Settled)
    (hremoved : ∀ e, (f.removeTree cwd p).1 = .error e → e.errno = .noEntry) {ns : List Text}
    (hns : p.parts <+: ns) : (f.removeTree cwd p).2.look ns = none := by
  by_cases hnil : p.parts = []
  · obtain ⟨e, he, hbusy⟩ : ∃ e, (f.removeTree cwd p).1 = .error e ∧ e.errno = .busy :=
      removeTree_root hp hnil
    rw [hremoved e he] at hbusy
    cases hbusy
  · rcases removeTree_cases hp hnil with ⟨_, _, hlook⟩ | ⟨hdir, hsame, e, he, hwhy⟩
    · rw [hlook, if_pos hns]
    · rw [hsame]
      have hmissing : f.look p.parts = none := by
        rcases hwhy with hstat | ⟨hnot, _⟩
        · exact look_of_stat_noEntry hp (hremoved e he ▸ hstat)
        · rw [hremoved e he] at hnot
          cases hnot
      obtain ⟨ms, rfl⟩ := hns
      exact look_append_of_none hmissing ms

end
end Folder
end AmbientBundle
