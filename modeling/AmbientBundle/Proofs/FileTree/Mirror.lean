import AmbientBundle.Proofs.FileTree.Settled

/-!
# Mirrored trees

Two trees can mirror each other without being the same: the places of one correspond to places of
the other, and what is seen at corresponding places is the same.  A *mirror* is such a
correspondence.  It keeps the way to a place, it is one to one, and it keeps the limits of the file
system, so that a path can be used on one side if it can be used on the other.  The identity is a
mirror, and so is an exchange of one directory for another one.

Some files can be *veiled*: their bytes may differ, as those of log files do.

The operations of the file system cannot tell mirrored trees apart.  At corresponding paths they
give the same answer or the same refusal and leave mirrored trees behind (`makeDirs_agree`,
`writeFile_agree`, `removeTree_agree`).  Where two trees differ only below a path, removing the
directory there makes them mirror each other (`removeTree_near`).
-/

namespace AmbientBundle

/-- Two results that are both there and related, or both missing for related reasons. -/
def Agree {ε δ α β : Type} (S : ε → δ → Prop) (R : α → β → Prop) : Except ε α → Except δ β → Prop
  | .ok a, .ok b => R a b
  | .error e, .error d => S e d
  | _, _ => False

theorem Agree.cases {ε δ α β : Type} {S : ε → δ → Prop} {R : α → β → Prop} {x : Except ε α}
    {y : Except δ β} (h : Agree S R x y) :
    (∃ a b, x = .ok a ∧ y = .ok b ∧ R a b) ∨ ∃ e d, x = .error e ∧ y = .error d ∧ S e d := by
  cases x with
  | ok a =>
    cases y with
    | ok b => exact Or.inl ⟨a, b, rfl, rfl, h⟩
    | error d => exact h.elim
  | error e =>
    cases y with
    | ok b => exact h.elim
    | error d => exact Or.inr ⟨e, d, rfl, rfl, h⟩

/-- Refusals for the same reason. -/
def OsFault.Same (e d : OsFault) : Prop := e.errno = d.errno

/-! ## Mirrors -/

/-- Whether a name has too many bytes. -/
def Path.isLongName (n : Text) : Bool := nameLimit < Utf8.size n

/-- Places that the limits of the file system treat alike. -/
structure SameLimits (ns ms : List Text) : Prop where
  /-- The same names are too long. -/
  names : ns.map Path.isLongName = ms.map Path.isLongName
  /-- Both paths are too long, or neither. -/
  whole : (Path.mk .root ns).isTooLong = (Path.mk .root ms).isTooLong

/-- A correspondence of places. -/
structure Mirror (P : List Text → List Text → Prop) : Prop where
  /-- The ways to two places correspond. -/
  take : ∀ {ns ms}, P ns ms → ∀ k, P (ns.take k) (ms.take k)
  /-- No place corresponds to two others. -/
  inj : ∀ {ns ms ns' ms'}, P ns ms → P ns' ms' → (ns = ns' ↔ ms = ms')
  /-- The limits are the same. -/
  limits : ∀ {ns ms}, P ns ms → SameLimits ns ms

/-- A correspondence of the places that are not at or below a given one. -/
def Off (P : List Text → List Text → Prop) (place : List Text) : List Text → List Text → Prop :=
  fun ns ms => P ns ms ∧ ¬ place <+: ns

namespace Mirror

variable {P : List Text → List Text → Prop} {ns ms ps qs : List Text}

protected theorem eq : Mirror Eq where
  take := fun h k => by rw [h]
  inj := fun h h' => by rw [h, h']
  limits := fun h => by rw [h]; exact ⟨rfl, rfl⟩

theorem length (hP : Mirror P) (h : P ns ms) : ns.length = ms.length := by
  have hlength := congrArg List.length (hP.limits h).names
  rwa [List.length_map, List.length_map] at hlength

/-- What is below a place corresponds to what is below its counterpart. -/
theorem prefix_iff (hP : Mirror P) (hps : P ps qs) (h : P ns ms) : ps <+: ns ↔ qs <+: ms := by
  rw [List.prefix_iff_eq_take, List.prefix_iff_eq_take, ← hP.length hps]
  exact hP.inj hps (hP.take h _)

end Mirror

/-- Two settled paths to corresponding places. -/
structure Path.Facing (P : List Text → List Text → Prop) (p q : Path) : Prop where
  /-- One is settled. -/
  left : p.Settled
  /-- So is the other. -/
  right : q.Settled
  /-- The places correspond. -/
  places : P p.parts q.parts

namespace Path.Facing

variable {P : List Text → List Text → Prop} {p q : Path}

theorem parent (hP : Mirror P) (h : Facing P p q) : Facing P p.parent q.parent where
  left := h.left.parent
  right := h.right.parent
  places := by
    have htake := hP.take h.places (p.parts.length - 1)
    rw [← List.dropLast_eq_take] at htake
    rwa [hP.length h.places, ← List.dropLast_eq_take] at htake

theorem parts_ne_nil (hP : Mirror P) (h : Facing P p q) (hne : p.parts ≠ []) : q.parts ≠ [] := by
  intro hq
  have hlength := hP.length h.places
  rw [hq, List.length_nil] at hlength
  exact hne (List.length_eq_zero_iff.1 hlength)

theorem isTooLong (hP : Mirror P) (h : Facing P p q) : p.isTooLong = q.isTooLong := by
  rw [h.left.eq_mk, h.right.eq_mk]
  exact (hP.limits h.places).whole

theorem usable_iff (hP : Mirror P) (h : Facing P p q) : p.Usable ↔ q.Usable := by
  have hnames (ps : List Text) : (∀ x ∈ ps, Utf8.size x ≤ nameLimit) ↔
      ∀ b ∈ ps.map isLongName, b = false := by simp [isLongName]
  rw [Usable, Usable, h.isTooLong hP, hnames, hnames, (hP.limits h.places).names]

end Path.Facing

namespace Folder

/-- Two trees with the same at corresponding places, apart from the bytes of veiled files. -/
structure Mirrors (P V : List Text → List Text → Prop) (f g : Folder) : Prop where
  /-- There are files where there are files, and directories where there are directories. -/
  kinds : ∀ {ns ms}, P ns ms → f.kindAt ns = g.kindAt ms
  /-- The files have the same bytes. -/
  looks : ∀ {ns ms}, P ns ms → ¬ V ns ms → f.look ns = g.look ms

/-- Trees that look the same at corresponding places mirror each other, whatever is veiled. -/
theorem Mirrors.of_look {P : List Text → List Text → Prop} {f g : Folder}
    (h : ∀ ns ms, P ns ms → f.look ns = g.look ms) (V : List Text → List Text → Prop) :
    f.Mirrors P V g where
  kinds := fun hns => by rw [kindAt_eq, kindAt_eq, h _ _ hns]
  looks := fun hns _ => h _ _ hns

/-! ## Following paths -/

/-- Parts lead equally far in trees that look alike on the way. -/
theorem walk_agree {f g : Folder} {ns ms ps qs : List Text}
    (hps : ∀ x ∈ ps, Path.Proper x ∧ x ≠ upPart) (hqs : ∀ x ∈ qs, Path.Proper x ∧ x ≠ upPart)
    (hlimits : ps.map Path.isLongName = qs.map Path.isLongName)
    (hkind : ∀ k, k < ps.length → f.kindAt (ns ++ ps.take k) = g.kindAt (ms ++ qs.take k)) :
    (∃ e, f.walk ⟨ns, 0⟩ ps = .error e ∧ g.walk ⟨ms, 0⟩ qs = .error e) ∨
      (f.walk ⟨ns, 0⟩ ps = .ok ⟨ns ++ ps, 0⟩ ∧ g.walk ⟨ms, 0⟩ qs = .ok ⟨ms ++ qs, 0⟩) := by
  induction ps generalizing ns ms qs with
  | nil =>
    cases qs with
    | nil => exact Or.inr ⟨by rw [walk, List.append_nil], by rw [walk, List.append_nil]⟩
    | cons q qs => cases hlimits
  | cons p ps ih =>
    cases qs with
    | nil => cases hlimits
    | cons q qs =>
      obtain ⟨hlimit, hlimits'⟩ := List.cons.inj hlimits
      have hhere := hkind 0 (by simp)
      rw [List.take_zero, List.take_zero, List.append_nil, List.append_nil] at hhere
      rw [walk_cons_proper (hps p List.mem_cons_self), walk_cons_proper (hqs q List.mem_cons_self)]
      rcases kind_cases hhere with ⟨hf, hg⟩ | ⟨c, c', mode, hf, hg⟩ | ⟨inner, inner', hf, hg⟩
      · exact Or.inl ⟨.noEntry, by rw [hf], by rw [hg]⟩
      · exact Or.inl ⟨.notDirectory, by rw [hf], by rw [hg]⟩
      · rw [hf, hg]
        -- A name that is too long is too long on both sides.
        have hsame : nameLimit < Utf8.size p ↔ nameLimit < Utf8.size q := by
          simpa [Path.isLongName] using hlimit
        by_cases hlong : nameLimit < Utf8.size q
        · exact Or.inl ⟨.nameTooLong, if_pos (hsame.2 hlong), if_pos hlong⟩
        · simp only [if_neg hlong, if_neg fun h => hlong (hsame.1 h)]
          have hkind' (k : Nat) (hk : k < ps.length) :
              f.kindAt (ns ++ [p] ++ ps.take k) = g.kindAt (ms ++ [q] ++ qs.take k) := by
            have hnext := hkind (k + 1) (by simpa using hk)
            simpa using hnext
          have hrest := ih (fun x hx => hps x (List.mem_cons_of_mem _ hx))
            (fun x hx => hqs x (List.mem_cons_of_mem _ hx)) hlimits' hkind'
          simpa using hrest

section

variable {P V : List Text → List Text → Prop} {f g : Folder} {cwd cwd' : Spot} {p q : Path}

theorem walk_root_agree (hP : Mirror P) (hpq : p.Facing P q)
    (hkind : ∀ k, k < p.parts.length → f.kindAt (p.parts.take k) = g.kindAt (q.parts.take k)) :
    (∃ e, f.walk ⟨[], 0⟩ p.parts = .error e ∧ g.walk ⟨[], 0⟩ q.parts = .error e) ∨
      (f.walk ⟨[], 0⟩ p.parts = .ok ⟨p.parts, 0⟩ ∧ g.walk ⟨[], 0⟩ q.parts = .ok ⟨q.parts, 0⟩) :=
  walk_agree hpq.left.names hpq.right.names (hP.limits hpq.places).names hkind

/-- What a path leads to if its way is clear. -/
def arrive (f : Folder) (p : Path) : Except Errno (Spot × Entry) :=
  match f.get? p.parts with
  | none => .error .noEntry
  | some e => .ok (⟨p.parts, 0⟩, e)

/-- Paths lead equally far in trees that look alike above them. -/
theorem stat_agree_above (hP : Mirror P) (hpq : p.Facing P q)
    (hkind : ∀ k, k < p.parts.length → f.kindAt (p.parts.take k) = g.kindAt (q.parts.take k)) :
    (∃ e, f.stat cwd p = .error e ∧ g.stat cwd' q = .error e) ∨
      (f.stat cwd p = f.arrive p ∧ g.stat cwd' q = g.arrive q) := by
  rw [stat, stat, hpq.left.start, hpq.right.start, hpq.isTooLong hP]
  cases q.isTooLong with
  | true => exact Or.inl ⟨_, rfl, rfl⟩
  | false =>
    simp only [Bool.false_eq_true, if_false]
    rcases walk_root_agree hP hpq hkind with ⟨e, hf, hg⟩ | ⟨hf, hg⟩
    · exact Or.inl ⟨e, by rw [hf], by rw [hg]⟩
    · rw [hf, hg]
      exact Or.inr ⟨rfl, rfl⟩

theorem Mirrors.above (hP : Mirror P) (h : f.Mirrors P V g) (hpq : P p.parts q.parts) (k : Nat) :
    f.kindAt (p.parts.take k) = g.kindAt (q.parts.take k) :=
  h.kinds (hP.take hpq k)

theorem stat_agree (hP : Mirror P) (h : f.Mirrors P V g) (hpq : p.Facing P q) :
    (∃ e, f.stat cwd p = .error e ∧ g.stat cwd' q = .error e) ∨
      (∃ c c' mode, f.stat cwd p = .ok (⟨p.parts, 0⟩, .file c mode) ∧
        g.stat cwd' q = .ok (⟨q.parts, 0⟩, .file c' mode)) ∨
      ∃ inner inner', f.stat cwd p = .ok (⟨p.parts, 0⟩, .dir inner) ∧
        g.stat cwd' q = .ok (⟨q.parts, 0⟩, .dir inner') := by
  rcases stat_agree_above hP hpq fun k _ => h.above hP hpq.places k with herror | ⟨hf, hg⟩
  · exact Or.inl herror
  · rw [hf, hg, arrive, arrive]
    rcases kind_cases (h.kinds hpq.places) with ⟨hf, hg⟩ | ⟨c, c', mode, hf, hg⟩ |
      ⟨inner, inner', hf, hg⟩
    · exact Or.inl ⟨.noEntry, by rw [hf], by rw [hg]⟩
    · exact Or.inr (Or.inl ⟨c, c', mode, by rw [hf], by rw [hg]⟩)
    · exact Or.inr (Or.inr ⟨inner, inner', by rw [hf], by rw [hg]⟩)

theorem isDir_agree (hP : Mirror P) (h : f.Mirrors P V g) (hpq : p.Facing P q) :
    f.isDir cwd p = g.isDir cwd' q := by
  rw [Bool.eq_iff_iff, isDir_iff hpq.left, isDir_iff hpq.right, hpq.usable_iff hP,
    ← kindAt_eq_dir_iff, ← kindAt_eq_dir_iff, h.kinds hpq.places]

theorem holder_agree (hP : Mirror P) (h : f.Mirrors P V g) (hpq : p.Facing P q) :
    (∃ e, f.holder cwd p = .error e ∧ g.holder cwd' q = .error e) ∨
      (f.holder cwd p = .ok none ∧ g.holder cwd' q = .ok none) ∨
      (f.holder cwd p = .ok (some p.parts) ∧ g.holder cwd' q = .ok (some q.parts)) := by
  have hlength := hP.length hpq.places
  by_cases hnil : p.parts = []
  · rw [hnil, List.length_nil] at hlength
    rw [holder, holder, hnil, List.length_eq_zero_iff.1 hlength.symm, hpq.isTooLong hP]
    cases q.isTooLong with
    | true => exact Or.inl ⟨_, rfl, rfl⟩
    | false => exact Or.inr (Or.inl ⟨rfl, rfl⟩)
  · have hnil' : q.parts ≠ [] := by
      intro hq
      rw [hq, List.length_nil] at hlength
      exact hnil (List.length_eq_zero_iff.1 hlength)
    rw [holder_eq_walk hpq.left hnil, holder_eq_walk hpq.right hnil', hpq.isTooLong hP]
    cases q.isTooLong with
    | true => exact Or.inl ⟨_, rfl, rfl⟩
    | false =>
      simp only [Bool.false_eq_true, if_false]
      rcases walk_root_agree hP hpq fun k _ => h.above hP hpq.places k with ⟨e, hf, hg⟩ | ⟨hf, hg⟩
      · exact Or.inl ⟨e, by rw [hf]; rfl, by rw [hg]; rfl⟩
      · exact Or.inr (Or.inr ⟨by rw [hf]; rfl, by rw [hg]; rfl⟩)

/-! ## Files -/

/-- A file is read alike unless it is veiled. -/
theorem readFile_agree (hP : Mirror P) (h : f.Mirrors P V g) (hpq : p.Facing P q)
    (hclear : ¬ V p.parts q.parts) :
    Agree OsFault.Same Eq (f.readFile cwd p) (g.readFile cwd' q) := by
  rw [readFile, readFile]
  rcases stat_agree hP h hpq with ⟨e, hf, hg⟩ | ⟨c, c', mode, hf, hg⟩ | ⟨inner, inner', hf, hg⟩
  · rw [hf, hg]
    exact (rfl : e = e)
  · have hlook := h.looks hpq.places hclear
    rw [look_eq_file_iff.2 ((stat_eq_ok_iff hpq.left).1 hf).2.2,
      look_eq_file_iff.2 ((stat_eq_ok_iff hpq.right).1 hg).2.2] at hlook
    cases hlook
    rw [hf, hg]
    exact (rfl : c = c)
  · rw [hf, hg]
    exact (rfl : Errno.isDirectory = .isDirectory)

/-- The same entry put in corresponding places, with nothing below it. -/
theorem Mirrors.put (hP : Mirror P) (h : f.Mirrors P V g) (hpq : p.Facing P q)
    (hf : f.holder cwd p = .ok (some p.parts)) (hg : g.holder cwd' q = .ok (some q.parts))
    (hold : f.kindAt p.parts ≠ some none) {e : Entry} (hleaf : e = .dir .nil ∨ e.isDir = false) :
    (f.put p.parts e).Mirrors P V (g.put q.parts e) := by
  obtain ⟨-, -, ks, n, hp, hdir⟩ := (holder_eq_some_iff hpq.left).1 hf
  obtain ⟨-, -, ls, m, hq, hdir'⟩ := (holder_eq_some_iff hpq.right).1 hg
  have hold' : g.kindAt q.parts ≠ some none := h.kinds hpq.places ▸ hold
  rw [Ne, kindAt_eq_dir_iff, hp] at hold
  rw [Ne, kindAt_eq_dir_iff, hq] at hold'
  have hsame {ns ms : List Text} (hns : P ns ms) : ns = ks ++ [n] ↔ ms = ls ++ [m] := by
    rw [← hp, ← hq]
    exact hP.inj hns hpq.places
  rw [hp, hq]
  constructor
  · intro ns ms hns
    rw [kindAt_eq, kindAt_eq, look_put_leaf hdir hold hleaf, look_put_leaf hdir' hold' hleaf]
    by_cases heq : ns = ks ++ [n]
    · rw [if_pos heq, if_pos ((hsame hns).1 heq)]
    · rw [if_neg heq, if_neg fun heq' => heq ((hsame hns).2 heq'), ← kindAt_eq, ← kindAt_eq]
      exact h.kinds hns
  · intro ns ms hns hclear
    rw [look_put_leaf hdir hold hleaf, look_put_leaf hdir' hold' hleaf]
    by_cases heq : ns = ks ++ [n]
    · rw [if_pos heq, if_pos ((hsame hns).1 heq)]
    · rw [if_neg heq, if_neg fun heq' => heq ((hsame hns).2 heq')]
      exact h.looks hns hclear

theorem writeFile_agree (hP : Mirror P) (h : f.Mirrors P V g) (hpq : p.Facing P q) (c : Bytes) :
    Agree OsFault.Same (Mirrors P V) (f.writeFile cwd p c) (g.writeFile cwd' q c) := by
  rw [writeFile, writeFile]
  rcases holder_agree hP h hpq with ⟨e, hf, hg⟩ | ⟨hf, hg⟩ | ⟨hf, hg⟩
  · rw [hf, hg]
    exact (rfl : e = e)
  · rw [hf, hg]
    exact (rfl : Errno.isDirectory = .isDirectory)
  · rw [hf, hg]
    simp only
    rcases kind_cases (h.kinds hpq.places) with ⟨hf', hg'⟩ | ⟨old, old', mode, hf', hg'⟩ |
      ⟨inner, inner', hf', hg'⟩
    · rw [hf', hg']
      exact h.put hP hpq hf hg (by rw [kindAt, hf']; simp) (Or.inr rfl)
    · rw [hf', hg']
      exact h.put hP hpq hf hg (by rw [kindAt, hf']; simp [Entry.kind]) (Or.inr rfl)
    · rw [hf', hg']
      exact (rfl : Errno.isDirectory = .isDirectory)

/-! ## Directories -/

theorem makeDir_agree (hP : Mirror P) (h : f.Mirrors P V g) (hpq : p.Facing P q) :
    Agree Eq (Mirrors P V) (f.makeDir cwd p) (g.makeDir cwd' q) := by
  rw [makeDir, makeDir]
  rcases holder_agree hP h hpq with ⟨e, hf, hg⟩ | ⟨hf, hg⟩ | ⟨hf, hg⟩
  · rw [hf, hg]
    exact (rfl : e = e)
  · rw [hf, hg]
    exact (rfl : Errno.alreadyExists = .alreadyExists)
  · rw [hf, hg]
    simp only
    rcases kind_cases (h.kinds hpq.places) with ⟨hf', hg'⟩ | ⟨c, c', mode, hf', hg'⟩ |
      ⟨inner, inner', hf', hg'⟩
    · rw [hf', hg']
      exact h.put hP hpq hf hg (by rw [kindAt, hf']; simp) (Or.inl rfl)
    · rw [hf', hg']
      exact (rfl : Errno.alreadyExists = .alreadyExists)
    · rw [hf', hg']
      exact (rfl : Errno.alreadyExists = .alreadyExists)

/-- Changes of two trees with the same answer that leave mirrored trees. -/
def Follow (P V : List Text → List Text → Prop) (r r' : Except OsFault Unit × Folder) : Prop :=
  Agree OsFault.Same (fun _ _ => True) r.1 r'.1 ∧ r.2.Mirrors P V r'.2

/-- A refusal counts unless the directory is there, and it is there on both sides or on neither. -/
theorem follow_refused (hP : Mirror P) (h : f.Mirrors P V g) (hpq : p.Facing P q) (e : Errno)
    (c : Bool) :
    Follow P V
      (if (c && f.isDir cwd p) = true then (.ok (), f) else (.error (.about e p), f))
      (if (c && g.isDir cwd' q) = true then (.ok (), g) else (.error (.about e q), g)) := by
  have hdir : f.isDir cwd p = g.isDir cwd' q := isDir_agree hP h hpq
  rw [hdir]
  cases c && g.isDir cwd' q with
  | true => exact ⟨trivial, h⟩
  | false => exact ⟨(rfl : e = e), h⟩

theorem makeDirsFrom_agree (hP : Mirror P) (h : f.Mirrors P V g) {rev rev' : List Text}
    (hpq : Path.Facing P ⟨.root, rev.reverse⟩ ⟨.root, rev'.reverse⟩) :
    Follow P V (makeDirsFrom cwd .root rev f) (makeDirsFrom cwd' .root rev' g) := by
  have hlength := hP.length hpq.places
  simp only [List.length_reverse] at hlength
  induction rev generalizing rev' with
  | nil =>
    cases rev' with
    | nil => exact ⟨trivial, h⟩
    | cons m up' => cases hlength
  | cons n up ih =>
    cases rev' with
    | nil => cases hlength
    | cons m up' =>
      have hup : Path.Facing P ⟨.root, up.reverse⟩ ⟨.root, up'.reverse⟩ := by
        have hparent := hpq.parent hP
        simpa [Path.parent] using hparent
      have hmake {k l : Folder} (hkl : k.Mirrors P V l) :
          Agree Eq (Mirrors P V) (k.makeDir cwd ⟨.root, (n :: up).reverse⟩)
            (l.makeDir cwd' ⟨.root, (m :: up').reverse⟩) := makeDir_agree hP hkl hpq
      rcases (hmake h).cases with ⟨f', g', hf, hg, hmade⟩ | ⟨e, _, hf, hg, rfl⟩
      · rw [makeDirsFrom, makeDirsFrom, hf, hg]
        exact ⟨trivial, hmade⟩
      · by_cases he : e = .noEntry
        · subst he
          rw [makeDirsFrom, makeDirsFrom, hf, hg]
          simp only
          obtain ⟨hresult, habove⟩ := ih hup (by simpa using hlength)
          rcases hk : makeDirsFrom cwd .root up f with ⟨r, k⟩
          rcases hl : makeDirsFrom cwd' .root up' g with ⟨r', l⟩
          rw [hk, hl] at hresult habove
          rcases hresult.cases with ⟨_, _, rfl, rfl, -⟩ | ⟨e, e', rfl, rfl, hsame⟩
          · simp only
            rcases (hmake habove).cases with ⟨f', g', hf, hg, hmade⟩ | ⟨e, _, hf, hg, rfl⟩
            · rw [hf, hg]
              exact ⟨trivial, hmade⟩
            · rw [hf, hg]
              exact follow_refused hP habove hpq e (decide (e ≠ .noEntry))
          · exact ⟨hsame, habove⟩
        · rw [makeDirsFrom_of_refused hf he, makeDirsFrom_of_refused hg he]
          exact follow_refused hP h hpq e true

theorem makeDirs_agree (hP : Mirror P) (h : f.Mirrors P V g) (hpq : p.Facing P q) :
    Follow P V (f.makeDirs cwd p) (g.makeDirs cwd' q) := by
  rw [makeDirs, makeDirs, hpq.left.anchor, hpq.right.anchor]
  refine makeDirsFrom_agree hP h ?_
  rwa [List.reverse_reverse, List.reverse_reverse, ← hpq.left.eq_mk, ← hpq.right.eq_mk]

/-! ## Removing directories -/

theorem Mirrors.off (h : f.Mirrors P V g) (place : List Text) : f.Mirrors (Off P place) V g where
  kinds := fun hns => h.kinds hns.1
  looks := fun hns => h.looks hns.1

/-- What is left of two trees once corresponding directories have gone. -/
theorem mirrors_of_removed {f' g' : Folder} (hP : Mirror P) (hpq : p.Facing P q)
    (h : f.Mirrors (Off P p.parts) V g)
    (hf : ∀ ns, f'.look ns = if p.parts <+: ns then none else f.look ns)
    (hg : ∀ ns, g'.look ns = if q.parts <+: ns then none else g.look ns) : f'.Mirrors P V g' := by
  constructor
  · intro ns ms hns
    have hsame := hP.prefix_iff hpq.places hns
    rw [kindAt_eq, kindAt_eq, hf, hg]
    by_cases hbelow : p.parts <+: ns
    · rw [if_pos hbelow, if_pos (hsame.1 hbelow)]
    · rw [if_neg hbelow, if_neg fun h => hbelow (hsame.2 h), ← kindAt_eq, ← kindAt_eq]
      exact h.kinds ⟨hns, hbelow⟩
  · intro ns ms hns hclear
    have hsame := hP.prefix_iff hpq.places hns
    rw [hf, hg]
    by_cases hbelow : p.parts <+: ns
    · rw [if_pos hbelow, if_pos (hsame.1 hbelow)]
    · rw [if_neg hbelow, if_neg fun h => hbelow (hsame.2 h)]
      exact h.looks ⟨hns, hbelow⟩ hclear

theorem removeTree_agree (hP : Mirror P) (h : f.Mirrors P V g) (hpq : p.Facing P q)
    (hne : p.parts ≠ []) : Follow P V (f.removeTree cwd p) (g.removeTree cwd' q) := by
  have hne' : q.parts ≠ [] := hpq.parts_ne_nil hP hne
  rcases stat_agree hP h hpq with ⟨e, hf, hg⟩ | ⟨c, c', mode, hf, hg⟩ | ⟨inner, inner', hf, hg⟩
  · rw [removeTree, removeTree, hf, hg]
    exact ⟨(rfl : e = e), h⟩
  · rw [removeTree, removeTree, hf, hg]
    exact ⟨(rfl : Errno.notDirectory = .notDirectory), h⟩
  · have hdir : f.isDir cwd p = true := by rw [isDir, hf]
    have hdir' : g.isDir cwd' q = true := by rw [isDir, hg]
    rcases removeTree_cases hpq.left hne with ⟨_, hok, hlook⟩ | ⟨hnot, _⟩
    · rcases removeTree_cases hpq.right hne' with ⟨_, hok', hlook'⟩ | ⟨hnot, _⟩
      · exact ⟨by rw [hok, hok']; trivial,
          mirrors_of_removed hP hpq (h.off _) hlook hlook'⟩
      · rw [hdir'] at hnot
        cases hnot
    · rw [hdir] at hnot
      cases hnot

/-- A directory is gone, or was missing. -/
def Cleared (r : Except OsFault Unit) : Prop := ∀ e, r = .error e → e.errno = .noEntry

/-- Two directories are both gone, or neither could be removed. -/
def ClearedAlike (r r' : Except OsFault Unit) : Prop :=
  (Cleared r ∧ Cleared r') ∨
    ∃ e e', r = .error e ∧ r' = .error e' ∧ e.errno ≠ .noEntry ∧ e'.errno ≠ .noEntry

theorem Follow.clearedAlike {r r' : Except OsFault Unit × Folder} (h : Follow P V r r') :
    ClearedAlike r.1 r'.1 := by
  rcases h.1.cases with ⟨_, _, hr, hr', -⟩ | ⟨e, e', hr, hr', hsame⟩
  · rw [hr, hr']
    exact Or.inl ⟨fun e he => (nomatch he), fun e he => (nomatch he)⟩
  · rw [hr, hr']
    by_cases he : e.errno = .noEntry
    · refine Or.inl ⟨fun d hd => ?_, fun d hd => ?_⟩
      · cases hd
        exact he
      · cases hd
        exact hsame.symm.trans he
    · exact Or.inr ⟨e, e', rfl, rfl, he, fun he' => he (hsame.trans he')⟩

/-- Nothing is lost by removing what is not there. -/
theorem look_eq_of_none {place : List Text} (h : f.look place = none) (ns : List Text) :
    f.look ns = if place <+: ns then none else f.look ns := by
  split
  · next hbelow =>
    obtain ⟨ms, rfl⟩ := hbelow
    exact look_append_of_none h ms
  · rfl

theorem removeTree_of_arrive (hp : p.Settled) (hne : p.parts ≠ []) (hstat : f.stat cwd p = f.arrive p)
    (hat : f.isDir cwd p = true ∨ f.look p.parts = none) :
    Cleared (f.removeTree cwd p).1 ∧
      ∀ ns, (f.removeTree cwd p).2.look ns = if p.parts <+: ns then none else f.look ns := by
  rcases hat with hdir | hnone
  · rcases removeTree_cases hp hne with ⟨_, hok, hlook⟩ | ⟨hnot, _⟩
    · exact ⟨fun e he => (by rw [hok] at he; cases he), hlook⟩
    · rw [hdir] at hnot
      cases hnot
  · have hmissing : f.stat cwd p = .error .noEntry := by
      rw [hstat, arrive, look_eq_none_iff.1 hnone]
    have hkept : f.removeTree cwd p = (.error (.about .noEntry p), f) := by rw [removeTree, hmissing]
    rw [hkept]
    refine ⟨fun e he => ?_, look_eq_of_none hnone⟩
    cases he
    rfl

/-- Where there was a directory or nothing, nothing is left. -/
theorem look_removeTree_below (hp : p.Settled) (hne : p.parts ≠ [])
    (hat : f.isDir cwd p = true ∨ f.look p.parts = none) {ns : List Text} (hns : p.parts <+: ns) :
    (f.removeTree cwd p).2.look ns = none := by
  rcases removeTree_cases hp hne with ⟨_, _, hlook⟩ | ⟨hnot, hsame, _⟩
  · rw [hlook, if_pos hns]
  · have hnone := hat.resolve_left fun h => by rw [hnot] at h; cases h
    rw [hsame, look_eq_of_none hnone, if_pos hns]

/-- Trees that differ only below a path, where each has a directory or nothing, mirror each other
once it is cleared. -/
theorem removeTree_near (hP : Mirror P) (hpq : p.Facing P q) (hne : p.parts ≠ [])
    (hoff : f.Mirrors (Off P p.parts) V g)
    (hf : f.isDir cwd p = true ∨ f.look p.parts = none)
    (hg : g.isDir cwd' q = true ∨ g.look q.parts = none) :
    ClearedAlike (f.removeTree cwd p).1 (g.removeTree cwd' q).1 ∧
      (f.removeTree cwd p).2.Mirrors P V (g.removeTree cwd' q).2 := by
  have hne' : q.parts ≠ [] := hpq.parts_ne_nil hP hne
  have habove (k : Nat) (hk : k < p.parts.length) :
      f.kindAt (p.parts.take k) = g.kindAt (q.parts.take k) := by
    refine hoff.kinds ⟨hP.take hpq.places k, fun hpre => ?_⟩
    have hlength := hpre.length_le
    rw [List.length_take] at hlength
    omega
  rcases stat_agree_above hP hpq habove with ⟨e, hstat, hstat'⟩ | ⟨hstat, hstat'⟩
  · -- The way is blocked on both sides, so nothing is there.
    have hnone : f.look p.parts = none := hf.resolve_left fun h => by rw [isDir, hstat] at h; cases h
    have hnone' : g.look q.parts = none :=
      hg.resolve_left fun h => by rw [isDir, hstat'] at h; cases h
    have hmirrors : f.Mirrors P V g :=
      mirrors_of_removed hP hpq hoff (look_eq_of_none hnone) (look_eq_of_none hnone')
    have hfollow : Follow P V (f.removeTree cwd p) (g.removeTree cwd' q) :=
      removeTree_agree hP hmirrors hpq hne
    exact ⟨hfollow.clearedAlike, hfollow.2⟩
  · obtain ⟨hcleared, hlook⟩ := removeTree_of_arrive hpq.left hne hstat hf
    obtain ⟨hcleared', hlook'⟩ := removeTree_of_arrive hpq.right hne' hstat' hg
    exact ⟨Or.inl ⟨hcleared, hcleared'⟩, mirrors_of_removed hP hpq hoff hlook hlook'⟩

/-! ## The working directory -/

theorem missing_eq_zero_iff {ns : List Text} : f.missing ns = 0 ↔ f.look ns = some none := by
  induction ns generalizing f with
  | nil => exact ⟨fun _ => look_nil f, fun _ => rfl⟩
  | cons n ns ih =>
    rw [missing, look, get?]
    cases f.find? n with
    | none => simp
    | some e =>
      cases e with
      | dir inner => exact ih
      | file c mode =>
        simp only [Nat.add_eq_zero_iff, Nat.one_ne_zero, and_false, false_iff]
        split <;> simp [Entry.surface]

end
end Folder
end AmbientBundle
