import AmbientBundle.Proofs.FileTree.Shape

/-!
# What is at a place

`look` says what is at a place of a tree without looking below it: nothing, a directory, or a
file with its bytes.  Two trees with the same look everywhere are the same tree, up to the order
in which entries are enumerated.

Setting an entry changes the look at its place and below it (`look_put_outside`), and so
does removing one, after which nothing is there (`look_remove_inside`).  `Frame` relates two
trees that differ in a region only, except that directories may have been made at some places
where nothing was.
-/

namespace AmbientBundle

/-- What is seen of an entry from above: of a file everything, of a directory only that it is
one. -/
def Entry.surface : Entry → Option (Bytes × FileMode)
  | .dir _ => none
  | .file c mode => some (c, mode)

namespace Folder

/-- What is at a place: nothing, a directory (`some none`) or a file. -/
def look (f : Folder) (ns : List Text) : Option (Option (Bytes × FileMode)) :=
  (f.get? ns).map Entry.surface

/-- The file at a place. -/
def fileAt (f : Folder) (ns : List Text) : Option (Bytes × FileMode) := (f.look ns).join

/-- What kind of entry is at a place. -/
def kindAt (f : Folder) (ns : List Text) : Option (Option FileMode) := (f.get? ns).map Entry.kind

@[simp] theorem look_nil (f : Folder) : f.look [] = some none := rfl

theorem kindAt_eq (f : Folder) (ns : List Text) :
    f.kindAt ns = (f.look ns).map (Option.map Prod.snd) := by
  rw [kindAt, look, Option.map_map]
  congr 1
  funext e
  cases e with
  | file c mode => rfl
  | dir g => rfl

theorem look_eq_none_iff {f : Folder} {ns : List Text} : f.look ns = none ↔ f.get? ns = none :=
  Option.map_eq_none_iff

theorem look_eq_dir_iff {f : Folder} {ns : List Text} :
    f.look ns = some none ↔ ∃ g, f.get? ns = some (.dir g) := by
  rw [look, Option.map_eq_some_iff]
  constructor
  · rintro ⟨e, he, hsurface⟩
    cases e with
    | file c mode => cases hsurface
    | dir g => exact ⟨g, he⟩
  · rintro ⟨g, hg⟩
    exact ⟨_, hg, rfl⟩

theorem look_eq_file_iff {f : Folder} {ns : List Text} {c : Bytes} {mode : FileMode} :
    f.look ns = some (some (c, mode)) ↔ f.get? ns = some (.file c mode) := by
  rw [look, Option.map_eq_some_iff]
  constructor
  · rintro ⟨e, he, hsurface⟩
    cases e with
    | file c' mode' =>
      cases hsurface
      exact he
    | dir g => cases hsurface
  · exact fun h => ⟨_, h, rfl⟩

/-- Only the kind of a directory is seen. -/
theorem kindAt_eq_dir_iff {f : Folder} {ns : List Text} :
    f.kindAt ns = some none ↔ f.look ns = some none := by
  rw [kindAt_eq, Option.map_eq_some_iff]
  constructor
  · rintro ⟨e, he, hkind⟩
    rw [he, Option.map_eq_none_iff.1 hkind]
  · exact fun h => ⟨none, h, rfl⟩

theorem kindAt_eq_none_iff {f : Folder} {ns : List Text} :
    f.kindAt ns = none ↔ f.look ns = none := by
  rw [kindAt_eq, Option.map_eq_none_iff]

/-! ## Above and below a place -/

/-- Above an entry there are directories. -/
theorem look_of_look_append {f : Folder} {ns ms : List Text} (hne : ms ≠ [])
    (h : f.look (ns ++ ms) ≠ none) : f.look ns = some none := by
  cases hget : f.get? (ns ++ ms) with
  | none => exact absurd (look_eq_none_iff.2 hget) h
  | some e => exact look_eq_dir_iff.2 (exists_dir_of_get?_append hget hne)

/-- Below a place where nothing is there is nothing. -/
theorem look_append_of_none {f : Folder} {ns : List Text} (h : f.look ns = none)
    (ms : List Text) : f.look (ns ++ ms) = none := by
  cases ms with
  | nil => rwa [List.append_nil]
  | cons m more =>
    cases hbelow : f.look (ns ++ m :: more) with
    | none => rfl
    | some surface =>
      have hsome : f.look (ns ++ m :: more) ≠ none := by
        rw [hbelow]
        exact Option.some_ne_none _
      rw [look_of_look_append (List.cons_ne_nil m more) hsome] at h
      cases h

/-- Below a file there is nothing. -/
theorem look_append_of_ne_dir {f : Folder} {ns ms : List Text} (h : f.look ns ≠ some none)
    (hne : ms ≠ []) : f.look (ns ++ ms) = none := by
  cases hms : f.look (ns ++ ms) with
  | none => rfl
  | some surface => exact absurd (look_of_look_append hne (by rw [hms]; exact Option.some_ne_none _)) h

/-! ## Setting an entry -/

theorem get?_insert_self (f : Folder) (n : Text) (e : Entry) : (f.insert n e).get? [n] = some e := by
  rw [get?_singleton, find?_insert_self]

theorem get?_insert_of_ne (f : Folder) {n k : Text} (e : Entry) (h : k ≠ n) (ks : List Text) :
    (f.insert n e).get? (k :: ks) = f.get? (k :: ks) := by
  rw [get?, get?, find?_insert_of_ne f e h]

/-- A change that goes through directories to the one that holds a place, and changes only one name
there, is seen at that place and below it only. -/
theorem look_changed_outside (change : Folder → List Text → Folder)
    (hlast : ∀ (f : Folder) (n k : Text), k ≠ n → (change f [n]).find? k = f.find? k)
    (hdeep : ∀ (f : Folder) (n m : Text) (ms : List Text), change f (n :: m :: ms) =
      match f.find? n with
      | some (.dir inner) => f.insert n (.dir (change inner (m :: ms)))
      | _ => f)
    {f : Folder} {place ns : List Text} (h : ¬ place <+: ns) :
    (change f place).look ns = f.look ns := by
  induction place generalizing f ns with
  | nil => exact absurd List.nil_prefix h
  | cons n rest ih =>
    cases ns with
    | nil => rfl
    | cons k ks =>
      by_cases hk : k = n
      · subst hk
        have hrest : ¬ rest <+: ks := fun hpre => h (List.cons_prefix_cons.2 ⟨rfl, hpre⟩)
        cases rest with
        | nil => exact absurd List.nil_prefix hrest
        | cons m more =>
          rw [hdeep]
          cases hn : f.find? k with
          | none => rfl
          | some d =>
            cases d with
            | file c mode => rfl
            | dir inner =>
              simp only
              rw [look, look, get?_cons_of_dir (find?_insert_self _ _ _), get?_cons_of_dir hn]
              exact ih hrest
      · cases rest with
        | nil => rw [look, look, get?, get?, hlast f n k hk]
        | cons m more =>
          rw [hdeep]
          cases hn : f.find? n with
          | none => rfl
          | some d =>
            cases d with
            | file c mode => rfl
            | dir inner => simp only [look, get?_insert_of_ne f _ hk]

/-- Setting an entry changes nothing but what is at its place and below it. -/
theorem look_put_outside {f : Folder} {place ns : List Text} (e : Entry)
    (h : ¬ place <+: ns) : (f.put place e).look ns = f.look ns :=
  look_changed_outside (fun f place => f.put place e)
    (fun f _ _ hk => find?_insert_of_ne f e hk) (fun _ _ _ _ => rfl) h

/-- An entry that is set in a directory is set in what is at its place. -/
theorem get?_put_dir {f g : Folder} {up : List Text} (hg : f.get? up = some (.dir g)) (n : Text)
    (e : Entry) : (f.put (up ++ [n]) e).get? up = some (.dir (g.insert n e)) := by
  induction up generalizing f with
  | nil =>
    cases hg
    rfl
  | cons m rest ih =>
    obtain ⟨inner, hm, hrest⟩ := exists_dir_of_get?_cons hg (Or.inr rfl)
    have hput : f.put (m :: rest ++ [n]) e = f.insert m (.dir (inner.put (rest ++ [n]) e)) := by
      cases rest with
      | nil => rw [List.singleton_append, put, hm, List.nil_append]
      | cons k more => rw [List.cons_append, List.cons_append, put, hm]
    rw [hput, get?_cons_of_dir (find?_insert_self _ _ _)]
    exact ih hrest

/-- An entry that is set in a directory is there. -/
theorem get?_put_self {f : Folder} {up : List Text} (h : f.look up = some none) (n : Text)
    (e : Entry) : (f.put (up ++ [n]) e).get? (up ++ [n]) = some e := by
  obtain ⟨g, hg⟩ := look_eq_dir_iff.1 h
  rw [get?_append_of_dir (get?_put_dir hg n e), get?_insert_self]

/-- Setting an entry without anything below it, where no directory is, changes the look at its
place only. -/
theorem look_put_leaf {f : Folder} {ms : List Text} {n : Text} {e : Entry} (hdir : f.look ms = some none)
    (hold : f.look (ms ++ [n]) ≠ some none) (hleaf : e = .dir .nil ∨ e.isDir = false)
    (ns : List Text) :
    (f.put (ms ++ [n]) e).look ns = if ns = ms ++ [n] then some e.surface else f.look ns := by
  have hself := get?_put_self hdir n e
  split
  · next heq => rw [heq, look, hself, Option.map_some]
  · next hne =>
    by_cases hpre : ms ++ [n] <+: ns
    · obtain ⟨ks, rfl⟩ := hpre
      have hks : ks ≠ [] := fun hnil => hne (by rw [hnil, List.append_nil])
      rw [look_append_of_ne_dir hold hks]
      rcases hleaf with rfl | hfile
      · rw [look_eq_none_iff, get?_append_of_dir hself]
        cases ks with
        | nil => exact absurd rfl hks
        | cons k rest => rfl
      · refine look_append_of_ne_dir (fun hlook => ?_) hks
        rw [look, hself, Option.map_some, Option.some.injEq] at hlook
        cases e with
        | file c mode => cases hlook
        | dir g => cases hfile
    · exact look_put_outside e hpre

/-- A file stands in a directory. -/
theorem exists_dir_of_file {f : Folder} {place : List Text} {c : Bytes} {mode : FileMode}
    (h : f.get? place = some (.file c mode)) :
    ∃ ms n, place = ms ++ [n] ∧ f.look ms = some none := by
  obtain ⟨ms, n, rfl⟩ := (List.eq_nil_or_concat place).resolve_left fun hnil => by
    rw [hnil] at h
    cases h
  rw [List.concat_eq_append] at h ⊢
  refine ⟨ms, n, rfl, look_of_look_append (List.cons_ne_nil n []) ?_⟩
  rw [look_eq_file_iff.2 h]
  exact Option.some_ne_none _

/-- Setting the bytes of a file changes the look at its place only. -/
theorem look_put_file {f : Folder} {place : List Text} {old new : Bytes} {mode : FileMode}
    (h : f.get? place = some (.file old mode)) {ns : List Text} (hns : ns ≠ place) :
    (f.put place (.file new mode)).look ns = f.look ns := by
  have hfile := look_eq_file_iff.2 h
  obtain ⟨ms, n, rfl, hdir⟩ := exists_dir_of_file h
  rw [look_put_leaf hdir (fun hlook => ?_) (Or.inr rfl), if_neg hns]
  rw [hfile] at hlook
  cases hlook

/-- Setting the bytes of a file changes no directory but those that hold it. -/
theorem get?_put_file {f : Folder} {place ns : List Text} {old new : Bytes} {mode : FileMode}
    (h : f.get? place = some (.file old mode)) (hns : ¬ ns <+: place) :
    (f.put place (.file new mode)).get? ns = f.get? ns := by
  induction place generalizing f ns with
  | nil => cases h
  | cons n rest ih =>
    cases ns with
    | nil => exact absurd List.nil_prefix hns
    | cons k ks =>
      cases rest with
      | nil =>
        by_cases hk : k = n
        · subst hk
          have hks : ks ≠ [] := fun hnil => hns (hnil ▸ List.prefix_rfl)
          rw [get?_singleton] at h
          rw [put, get?, get?, find?_insert_self, h]
          simp only [if_neg hks]
        · rw [put, get?_insert_of_ne f _ hk]
      | cons m more =>
        obtain ⟨inner, hn, hrest⟩ := exists_dir_of_get?_cons h (Or.inl (List.cons_ne_nil m more))
        rw [put, hn]
        by_cases hk : k = n
        · subst hk
          rw [get?_cons_of_dir (find?_insert_self _ _ _), get?_cons_of_dir hn]
          exact ih hrest fun hpre => hns (List.cons_prefix_cons.2 ⟨rfl, hpre⟩)
        · exact get?_insert_of_ne f _ hk ks

/-! ## Removing an entry -/

/-- Removing an entry changes nothing but what is at its place and below it. -/
theorem look_remove_outside {f : Folder} {place ns : List Text} (h : ¬ place <+: ns) :
    (f.remove place).look ns = f.look ns :=
  look_changed_outside (fun f place => f.remove place)
    (fun f _ _ hk => find?_erase_of_ne f hk) (fun _ _ _ _ => rfl) h

theorem look_remove_self {f : Folder} {place : List Text} (hne : place ≠ []) :
    (f.remove place).look place = none := by
  rw [look_eq_none_iff]
  induction place generalizing f with
  | nil => exact absurd rfl hne
  | cons n rest ih =>
    cases rest with
    | nil => rw [remove, get?_singleton, find?_erase_self]
    | cons m more =>
      rw [remove]
      cases hn : f.find? n with
      | none => rw [get?, hn]
      | some d =>
        cases d with
        | file c mode =>
          rw [get?, hn]
          exact if_neg (List.cons_ne_nil _ _)
        | dir inner =>
          simp only
          rw [get?_cons_of_dir (find?_insert_self _ _ _)]
          exact ih (List.cons_ne_nil _ _)

/-- After an entry is removed nothing is at its place and below it. -/
theorem look_remove_inside {f : Folder} {place ns : List Text} (hne : place ≠ [])
    (h : place <+: ns) : (f.remove place).look ns = none := by
  obtain ⟨ms, rfl⟩ := h
  exact look_append_of_none (look_remove_self hne) ms

/-! ## Trees that differ in a region -/

/-- Two trees that are the same outside of a region, except that directories may have been made
at some places where nothing was. -/
def Frame (region grown : List Text → Prop) (f g : Folder) : Prop :=
  ∀ ns, ¬ region ns →
    g.look ns = f.look ns ∨ (grown ns ∧ f.look ns = none ∧ g.look ns = some none)

namespace Frame

variable {region region' grown grown' : List Text → Prop} {f g k : Folder}

theorem refl (region grown : List Text → Prop) (f : Folder) : Frame region grown f f :=
  fun _ _ => Or.inl rfl

theorem trans (hfg : Frame region grown f g) (hgk : Frame region grown g k) :
    Frame region grown f k := by
  intro ns hns
  rcases hfg ns hns with hg | ⟨hgrown, hnone, hdir⟩
  · rcases hgk ns hns with hk | ⟨hgrown, hnone, hdir⟩
    · exact Or.inl (hk.trans hg)
    · exact Or.inr ⟨hgrown, hg.symm.trans hnone, hdir⟩
  · rcases hgk ns hns with hk | ⟨_, hnone', _⟩
    · exact Or.inr ⟨hgrown, hnone, hk.trans hdir⟩
    · rw [hdir] at hnone'
      cases hnone'

theorem mono (h : Frame region grown f g) (hregion : ∀ ns, region ns → region' ns)
    (hgrown : ∀ ns, grown ns → grown' ns) : Frame region' grown' f g := by
  intro ns hns
  rcases h ns fun hr => hns (hregion ns hr) with hsame | ⟨hg, hnone, hdir⟩
  · exact Or.inl hsame
  · exact Or.inr ⟨hgrown ns hg, hnone, hdir⟩

end Frame
end Folder
end AmbientBundle
