import AmbientBundle.Proofs.FileTree.Settled

/-!
# What is in the way of a directory

A directory can be made at a settled path that can be used unless a file stands at the path or above
it.  Then the place is *blocked*, and nothing is made at all, not even the directories above the
file.  So making a directory either succeeds or changes nothing (`makeDirs_cases`); only a path that
is too long can fail halfway.

A directory that is removed, or that was missing, leaves a place that is not blocked
(`not_blocked_removeTree`).  Whoever removes a directory can make it again.
-/

namespace AmbientBundle

/-! ## Paths above a usable path -/

theorem Utf8.size_le_append (t u : Text) : size t ≤ size (t ++ u) := by
  have hgrows (n : Nat) : n ≤ u.foldl (fun n c => n + c.utf8Size) n := by
    induction u generalizing n with
    | nil => exact Nat.le_refl n
    | cons c rest ih => exact Nat.le_trans (Nat.le_add_right n _) (ih _)
  rw [size, size, List.foldl_append]
  exact hgrows _

/-- What is above a path is written in front of it. -/
theorem Path.toText_append (ps qs : List Text) :
    ∃ rest, (Path.mk .root (ps ++ qs)).toText = (Path.mk .root ps).toText ++ rest := by
  change ∃ rest, '/' :: Text.joinWith '/' (ps ++ qs) = '/' :: Text.joinWith '/' ps ++ rest
  cases ps with
  | nil => exact ⟨Text.joinWith '/' qs, rfl⟩
  | cons p more =>
    cases qs with
    | nil => exact ⟨[], by rw [List.append_nil, List.append_nil]⟩
    | cons q rest =>
      rw [Text.joinWith_append (List.cons_ne_nil _ _) (List.cons_ne_nil _ _)]
      exact ⟨_, rfl⟩

/-- What is above a path that can be used can be used. -/
theorem Path.Usable.of_append {ps qs : List Text} (h : (Path.mk .root (ps ++ qs)).Usable) :
    (Path.mk .root ps).Usable := by
  obtain ⟨hshort, hnames⟩ := h
  refine ⟨?_, fun x hx => hnames x (List.mem_append_left _ hx)⟩
  obtain ⟨rest, htext⟩ := Path.toText_append ps qs
  have hsize := Utf8.size_le_append (Path.mk .root ps).toText rest
  rw [← htext] at hsize
  rw [isTooLong, decide_eq_false_iff_not] at hshort ⊢
  omega

namespace Folder

/-! ## Blocked places -/

/-- Whether a file stands at a place or above it. -/
def Blocked (f : Folder) (place : List Text) : Prop := ∃ ns, ns <+: place ∧ f.fileAt ns ≠ none

section

variable {f g : Folder} {cwd : Spot} {p : Path} {place : List Text}

theorem fileAt_eq_none_of_look (h : f.look place = none ∨ f.look place = some none) :
    f.fileAt place = none := by
  rcases h with h | h <;> rw [fileAt, h] <;> rfl

theorem not_blocked_iff : ¬ f.Blocked place ↔ ∀ ns, ns <+: place → f.fileAt ns = none := by
  simp [Blocked]

theorem fileAt_eq_none_iff : f.fileAt place = none ↔ (f.kindAt place).join = none := by
  rw [kindAt_eq, Option.join_map_eq_map_join, Option.map_eq_none_iff, fileAt]

/-- What is in the way does not depend on the bytes of files. -/
theorem SameShape.blocked_iff (h : f.SameShape g) : f.Blocked place ↔ g.Blocked place := by
  have hkind (ns : List Text) : f.kindAt ns = g.kindAt ns := h ns
  simp only [Blocked, ne_eq, fileAt_eq_none_iff, hkind]

/-- Above a directory there are directories only. -/
theorem not_blocked_of_dir (h : f.look place = some none) : ¬ f.Blocked place := by
  rw [not_blocked_iff]
  rintro ns ⟨ms, rfl⟩
  cases ms with
  | nil => exact fileAt_eq_none_of_look (Or.inr (by rwa [List.append_nil] at h))
  | cons m rest =>
    have hdir := look_of_look_append (List.cons_ne_nil m rest) (by rw [h]; exact Option.some_ne_none _)
    exact fileAt_eq_none_of_look (Or.inr hdir)

/-- A place is not blocked if nothing is there and the place above is a directory. -/
theorem not_blocked_concat {n : Text} (hdir : f.look place = some none)
    (hnone : f.look (place ++ [n]) = none) : ¬ f.Blocked (place ++ [n]) := by
  rw [not_blocked_iff]
  intro ns hns
  rcases List.prefix_concat_iff.1 hns with rfl | hns
  · exact fileAt_eq_none_of_look (Or.inl hnone)
  · exact not_blocked_iff.1 (not_blocked_of_dir hdir) ns hns

/-! ## Following a path that cannot be followed -/

/-- Proper names that are not too long can be followed unless something is missing or a file is in
the way. -/
theorem blocked_of_walk {ps : List Text} {e : Errno} (hps : ∀ x ∈ ps, Path.Proper x ∧ x ≠ upPart)
    (hshort : ∀ x ∈ ps, Utf8.size x ≤ nameLimit) (h : f.walk ⟨place, 0⟩ ps = .error e)
    (he : e ≠ .noEntry) : f.Blocked (place ++ ps) := by
  induction ps generalizing place with
  | nil => cases h
  | cons n rest ih =>
    rcases f.walk_cons_cases (hps n List.mem_cons_self) place rest with
      ⟨-, hwalk⟩ | ⟨hfile, -⟩ | ⟨hlong, -⟩ | ⟨-, -, hwalk⟩
    · rw [hwalk] at h
      cases h
      exact absurd rfl he
    · exact ⟨place, List.prefix_append _ _, hfile⟩
    · exact absurd hlong (Nat.not_lt.2 (hshort n List.mem_cons_self))
    · rw [hwalk] at h
      rw [← List.singleton_append, ← List.append_assoc]
      exact ih (fun x hx => hps x (List.mem_cons_of_mem _ hx))
        (fun x hx => hshort x (List.mem_cons_of_mem _ hx)) h

/-- A walk that misses something meets no file. -/
theorem fileAt_of_walk_noEntry {ps : List Text} (hps : ∀ x ∈ ps, Path.Proper x ∧ x ≠ upPart)
    (h : f.walk ⟨place, 0⟩ ps = .error .noEntry) {ms : List Text} (hms : ms <+: ps) :
    f.fileAt (place ++ ms) = none := by
  induction ps generalizing place ms with
  | nil => cases h
  | cons n rest ih =>
    rcases f.walk_cons_cases (hps n List.mem_cons_self) place rest with
      ⟨hnone, -⟩ | ⟨-, hwalk⟩ | ⟨-, hwalk⟩ | ⟨hdir, -, hwalk⟩
    · exact fileAt_eq_none_of_look (Or.inl (look_append_of_none hnone ms))
    · rw [hwalk] at h
      cases h
    · rw [hwalk] at h
      cases h
    · rw [hwalk] at h
      rcases List.prefix_cons_iff.1 hms with rfl | ⟨ks, rfl, hks⟩
      · rw [List.append_nil]
        exact fileAt_eq_none_of_look (Or.inr hdir)
      · rw [← List.singleton_append, ← List.append_assoc]
        exact ih (fun x hx => hps x (List.mem_cons_of_mem _ hx)) h hks

theorem not_blocked_of_stat_noEntry (hp : p.Settled) (h : f.stat cwd p = .error .noEntry) :
    ¬ f.Blocked p.parts := by
  have hnone := look_of_stat_noEntry hp h
  rw [stat, hp.start] at h
  split at h
  · cases h
  · split at h
    · next hwalk =>
      cases h
      rw [not_blocked_iff]
      exact fun ns hns => fileAt_of_walk_noEntry hp.names hwalk hns
    · next hwalk =>
      obtain ⟨-, -, hthrough⟩ := (walk_eq_ok_iff hp.names).1 hwalk
      rcases List.eq_nil_or_concat p.parts with hnil | ⟨ms, n, hparts⟩
      · rw [hnil, look_nil] at hnone
        cases hnone
      · rw [List.concat_eq_append] at hparts
        rw [hparts] at hnone ⊢
        exact not_blocked_concat (hthrough ms n hparts) hnone

/-! ## Making directories -/

/-- A directory that is missing, with nothing in the way, can be made once the one above is
there. -/
theorem makeDir_of_dir (hp : p.Settled) (husable : p.Usable) {ms : List Text} {n : Text}
    (hparts : p.parts = ms ++ [n]) (hdir : f.look ms = some none) (hnone : f.look p.parts = none) :
    f.makeDir cwd p = .ok (f.put p.parts (.dir .nil)) := by
  rw [makeDir, (holder_eq_some_iff hp).2 ⟨husable, rfl, ms, n, hparts, hdir⟩]
  simp only [look_eq_none_iff.1 hnone]

/-- Where a directory cannot be made although nothing is missing above it, something is in the way,
or a directory is there already. -/
theorem blocked_of_makeDir (hp : p.Settled) (husable : p.Usable) (hne : p.parts ≠ []) {e : Errno}
    (h : f.makeDir cwd p = .error e) (he : e ≠ .noEntry) (hdir : f.isDir cwd p = false) :
    f.Blocked p.parts := by
  rw [makeDir, holder_eq_walk hp hne, husable.1] at h
  simp only [Bool.false_eq_true, if_false] at h
  cases hwalk : f.walk ⟨[], 0⟩ p.parts with
  | error e' =>
    rw [hwalk] at h
    cases h
    exact blocked_of_walk hp.names husable.2 hwalk he
  | ok s =>
    obtain ⟨rfl, -, -⟩ := (walk_eq_ok_iff hp.names).1 hwalk
    rw [hwalk] at h
    simp only [Except.map, List.nil_append] at h
    refine ⟨p.parts, List.prefix_rfl, fun hfile => ?_⟩
    cases hget : f.get? p.parts with
    | none => rw [hget] at h; cases h
    | some found =>
      cases found with
      | file c mode => rw [fileAt, look, hget] at hfile; cases hfile
      | dir inner =>
        rw [(isDir_iff hp).2 ⟨husable, look_eq_dir_iff.2 ⟨inner, hget⟩⟩] at hdir
        cases hdir

theorem not_blocked_of_makeDir_noEntry (hp : p.Settled) (husable : p.Usable) (hne : p.parts ≠ [])
    (h : f.makeDir cwd p = .error .noEntry) : ¬ f.Blocked p.parts ∧ f.look p.parts = none := by
  rw [makeDir, holder_eq_walk hp hne, husable.1] at h
  simp only [Bool.false_eq_true, if_false] at h
  cases hwalk : f.walk ⟨[], 0⟩ p.parts with
  | error e =>
    rw [hwalk] at h
    cases h
    exact ⟨not_blocked_iff.2 fun ns hns => fileAt_of_walk_noEntry hp.names hwalk hns,
      look_of_walk_noEntry hp.names hwalk⟩
  | ok s =>
    rw [hwalk] at h
    simp only [Except.map] at h
    split at h <;> cases h

/-- A directory that is missing is made once the one above has been made. -/
theorem makeDirsFrom_of_above {last : Text} {up : List Text} {above : Folder}
    (hp : (Path.mk .root (last :: up).reverse).Settled)
    (husable : (Path.mk .root (last :: up).reverse).Usable)
    (hmake : f.makeDir cwd ⟨.root, (last :: up).reverse⟩ = .error .noEntry)
    (hnone : f.look (last :: up).reverse = none)
    (habove : makeDirsFrom cwd .root up f = (.ok (), above)) :
    (makeDirsFrom cwd .root (last :: up) f).1 = .ok () := by
  have hparts : (last :: up).reverse = up.reverse ++ [last] := List.reverse_cons
  have hup : (Path.mk .root up.reverse).Settled :=
    hp.of_parts fun x hx => by rw [hparts]; exact List.mem_append_left _ hx
  obtain ⟨hframe, hdir⟩ := makeDirsFrom_spec hup habove
  have hthere := ((isDir_iff hup).1 (hdir.1 rfl)).2
  have hsame : above.look (last :: up).reverse = none := by
    rcases hframe (last :: up).reverse not_false with hsame | ⟨hpre, -⟩
    · exact hsame.trans hnone
    · exact absurd hpre.length_le (by simp)
  rw [makeDirsFrom, hmake]
  simp only [habove, makeDir_of_dir hp husable hparts hthere hsame]

/-- Directories are made from the outermost missing one inwards, and none is if a file is in the
way. -/
theorem makeDirsFrom_cases {rev : List Text} (hp : (Path.mk .root rev.reverse).Settled)
    (husable : (Path.mk .root rev.reverse).Usable) :
    ((makeDirsFrom cwd .root rev f).1 = .ok () ∧ ¬ f.Blocked rev.reverse) ∨
      ((makeDirsFrom cwd .root rev f).1 ≠ .ok () ∧ (makeDirsFrom cwd .root rev f).2 = f ∧
        f.Blocked rev.reverse) := by
  induction rev with
  | nil => exact Or.inl ⟨rfl, not_blocked_of_dir (look_nil f)⟩
  | cons last up ih =>
    have hparts : (last :: up).reverse = up.reverse ++ [last] := List.reverse_cons
    have hne : (last :: up).reverse ≠ [] := by simp
    cases hmake : f.makeDir cwd ⟨.root, (last :: up).reverse⟩ with
    | ok made =>
      refine Or.inl ⟨by rw [makeDirsFrom, hmake], ?_⟩
      obtain ⟨-, hnone, hlook⟩ := makeDir_eq_ok hp hmake
      have hdir : made.look (up.reverse ++ [last]) = some none := by rw [hlook, if_pos hparts.symm]
      have habove := look_of_look_append (List.cons_ne_nil last [])
        (by rw [hdir]; exact Option.some_ne_none _)
      rw [hlook, if_neg (by simp)] at habove
      rw [hparts] at hnone ⊢
      exact not_blocked_concat habove hnone
    | error e =>
      by_cases he : e = .noEntry
      · subst he
        obtain ⟨hfree, hnone⟩ := not_blocked_of_makeDir_noEntry hp husable hne hmake
        have hup : (Path.mk .root up.reverse).Settled :=
          hp.of_parts fun x hx => by rw [hparts]; exact List.mem_append_left _ hx
        have husable' : (Path.mk .root up.reverse).Usable := by
          rw [hparts] at husable
          exact husable.of_append
        -- Nothing is in the way of the directory above either, so it is made first.
        obtain ⟨hok, -⟩ := (ih hup husable').resolve_right fun hblocked => by
          obtain ⟨ns, hns, hfile⟩ := hblocked.2.2
          exact hfree ⟨ns, hns.trans (by rw [hparts]; exact List.prefix_append _ _), hfile⟩
        refine Or.inl ⟨?_, hfree⟩
        rcases habove : makeDirsFrom cwd .root up f with ⟨r, above⟩
        rw [habove] at hok
        obtain rfl : r = .ok () := hok
        exact makeDirsFrom_of_above hp husable hmake hnone habove
      · rw [makeDirsFrom_of_refused hmake he]
        cases hdir : f.isDir cwd ⟨.root, (last :: up).reverse⟩ with
        | true => exact Or.inl ⟨rfl, not_blocked_of_dir ((isDir_iff hp).1 hdir).2⟩
        | false =>
          refine Or.inr ⟨?_, rfl, blocked_of_makeDir hp husable hne hmake he hdir⟩
          intro h
          cases h

/-- Making a directory at a settled path that can be used succeeds if nothing is in the way, and
changes nothing otherwise. -/
theorem makeDirs_cases (hp : p.Settled) (husable : p.Usable) :
    ((f.makeDirs cwd p).1 = .ok () ∧ ¬ f.Blocked p.parts) ∨
      ((f.makeDirs cwd p).1 ≠ .ok () ∧ (f.makeDirs cwd p).2 = f ∧ f.Blocked p.parts) := by
  have hmk : Path.mk .root p.parts.reverse.reverse = p := by
    rw [List.reverse_reverse, ← hp.eq_mk]
  have hcases := @makeDirsFrom_cases f cwd p.parts.reverse (by rwa [hmk]) (by rwa [hmk])
  rw [List.reverse_reverse] at hcases
  rwa [makeDirs, hp.anchor]

/-- Making a directory does not touch what is below it. -/
theorem look_makeDirs_below (hp : p.Settled) {ms : List Text} (hms : ms ≠ []) :
    (f.makeDirs cwd p).2.look (p.parts ++ ms) = f.look (p.parts ++ ms) := by
  rcases frame_makeDirs hp (p.parts ++ ms) not_false with hsame | ⟨hpre, -, -⟩
  · exact hsame
  · have hlength := hpre.length_le
    rw [List.length_append] at hlength
    exact absurd (List.length_eq_zero_iff.1 (by omega)) hms

/-- An empty directory at a place. -/
def EmptyAt (f : Folder) (place : List Text) : Prop :=
  f.look place = some none ∧ ∀ ms, ms ≠ [] → f.look (place ++ ms) = none

theorem EmptyAt.eq_nil {inner : Folder} (h : f.EmptyAt place)
    (hget : f.get? place = some (.dir inner)) : inner = .nil := by
  have hfind (n : Text) : inner.find? n = none := by
    have hnone := h.2 [n] (List.cons_ne_nil _ _)
    rwa [look_eq_none_iff, get?_append_of_dir hget, get?_singleton] at hnone
  cases inner with
  | nil => rfl
  | file n content mode rest => simpa [find?] using hfind n
  | dir n deeper rest => simpa [find?] using hfind n

theorem SameShape.emptyAt_iff (h : f.SameShape g) : f.EmptyAt place ↔ g.EmptyAt place := by
  have hkind (ns : List Text) : f.kindAt ns = g.kindAt ns := h ns
  simp only [EmptyAt, ← kindAt_eq_dir_iff, ← kindAt_eq_none_iff, hkind]

/-- A directory that is made where nothing was is empty. -/
theorem emptyAt_makeDirs (hp : p.Settled) (hmade : (f.makeDirs cwd p).1 = .ok ())
    (hnone : f.look p.parts = none) : (f.makeDirs cwd p).2.EmptyAt p.parts := by
  refine ⟨((isDir_iff hp).1 ((makeDirs_eq_ok_iff hp).1 hmade)).2, fun ms hms => ?_⟩
  exact (look_makeDirs_below hp hms).trans (look_append_of_none hnone ms)

/-! ## Removing directories -/

/-- Nothing is in the way of a directory that has been removed or was missing. -/
theorem not_blocked_removeTree (hp : p.Settled) (hne : p.parts ≠ [])
    (hremoved : ∀ e, (f.removeTree cwd p).1 = .error e → e.errno = .noEntry) :
    ¬ (f.removeTree cwd p).2.Blocked p.parts := by
  rcases removeTree_cases hp hne with ⟨hdir, -, hlook⟩ | ⟨-, hsame, e, he, hwhy⟩
  · rw [not_blocked_iff]
    intro ns hns
    rw [fileAt, hlook]
    split
    · rfl
    · exact not_blocked_iff.1 (not_blocked_of_dir ((isDir_iff hp).1 hdir).2) ns hns
  · rw [hsame]
    rcases hwhy with hstat | ⟨hnot, -⟩
    · exact not_blocked_of_stat_noEntry hp (hremoved e he ▸ hstat)
    · rw [hremoved e he] at hnot
      cases hnot

end
end Folder
end AmbientBundle
