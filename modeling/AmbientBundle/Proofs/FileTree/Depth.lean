import AmbientBundle.FileTree.Depth
import AmbientBundle.Proofs.FileTree.Making

/-!
# How deep a tree is

A directory is removed completely if it is not too deep (`strip_eq_nil_iff`).  Otherwise what is
left of it is still too deep (`lt_depth_strip`), so that it can be removed no better later on.

`stuck?` says at a settled path what is left: the directory is there, as far as it was not removed,
and everything else is as it was (`stuck?_spec`).  Nothing is left over for making a directory if
a file is in the way of it (`climb_of_blocked`): it is refused before it can be too deep.
-/

namespace AmbientBundle
namespace Folder

/-! ## Stripping -/

section

variable {f : Folder} {room : Nat}

/-- A tree is removed completely exactly if it is not too deep. -/
theorem strip_eq_nil_iff : f.strip room = .nil ↔ f.depth ≤ room := by
  induction f generalizing room with
  | nil => cases room <;> simp [strip, depth]
  | file name content mode rest ih =>
    cases room with
    | zero => simp [strip, depth]
    | succ room =>
      rw [strip, depth, ih]
      omega
  | dir name inner rest ihInner ihRest =>
    cases room with
    | zero => simp [strip, depth]
    | succ room =>
      rw [strip, depth, Nat.max_le, Nat.add_le_add_iff_right, ← ihInner, ← ihRest]
      cases inner.strip room with
      | nil => simp
      | file => simp
      | dir => simp

/-- What is left of a tree that is too deep is too deep. -/
theorem lt_depth_strip (h : room < f.depth) : room < (f.strip room).depth := by
  induction f generalizing room with
  | nil => cases h
  | file name content mode rest ih =>
    cases room with
    | zero => exact h
    | succ room =>
      rw [depth] at h
      exact ih (by omega)
  | dir name inner rest ihInner ihRest =>
    cases room with
    | zero => exact h
    | succ room =>
      rw [strip]
      by_cases hinner : inner.depth ≤ room
      · rw [strip_eq_nil_iff.2 hinner]
        exact ihRest (by rw [depth] at h; omega)
      · have hleft := ihInner (Nat.not_le.1 hinner)
        split
        · next hnil => exact absurd (strip_eq_nil_iff.1 hnil) hinner
        · rw [depth]
          omega

end

section

variable {f g : Folder} {cwd : Spot} {p : Path} {room : Nat}

/-! ## Removing -/

/-- Removing a directory at a settled path is stopped exactly if it is there and too deep. -/
theorem stuck?_eq_some_iff (hp : p.Settled) (hne : p.parts ≠ []) :
    f.stuck? room cwd p = some g ↔
      p.Usable ∧ ∃ inner, f.get? p.parts = some (.dir inner) ∧ room < inner.depth ∧
        g = f.put p.parts (.dir (inner.strip room)) := by
  rw [stuck?]
  constructor
  · intro h
    split at h
    · next s inner hstat =>
      obtain ⟨husable, rfl, hget⟩ := (stat_eq_ok_iff hp).1 hstat
      split at h
      · cases h
      · next hdeep =>
        simp only at h
        exact ⟨husable, inner, hget, Nat.not_le.1 hdeep, (Option.some.inj h).symm⟩
    · cases h
  · rintro ⟨husable, inner, hget, hdeep, rfl⟩
    rw [(stat_eq_ok_iff hp).2 ⟨husable, rfl, hget⟩]
    simp only [if_neg (Nat.not_le.2 hdeep), if_neg hne]

/-- What is left of a directory that is too deep: the directory, still too deep, and all else. -/
theorem stuck?_spec (hp : p.Settled) (hne : p.parts ≠ []) (h : f.stuck? room cwd p = some g) :
    (∃ left, g.get? p.parts = some (.dir left) ∧ room < left.depth) ∧
      f.look p.parts = some none ∧ ∀ ns, ¬ p.parts <+: ns → g.look ns = f.look ns := by
  obtain ⟨-, inner, hget, hdeep, rfl⟩ := (stuck?_eq_some_iff hp hne).1 h
  have hthere := look_eq_dir_iff.2 ⟨inner, hget⟩
  refine ⟨⟨_, ?_, lt_depth_strip hdeep⟩, hthere, fun ns hns => look_put_outside _ hns⟩
  obtain ⟨ms, n, hparts⟩ := (List.eq_nil_or_concat p.parts).resolve_left hne
  rw [List.concat_eq_append] at hparts
  rw [hparts] at hthere ⊢
  refine get?_put_self (look_of_look_append (List.cons_ne_nil n []) ?_) n _
  rw [hthere]
  exact Option.some_ne_none _

/-! ## Making -/

/-- Where a file is in the way, no directory is missing above the path. -/
theorem climb_of_blocked (hp : p.Settled) (husable : p.Usable) (hblocked : f.Blocked p.parts) :
    f.climb cwd p = 0 := by
  have hne : p.parts ≠ [] := by
    intro hnil
    rw [hnil] at hblocked
    exact not_blocked_of_dir (look_nil f) hblocked
  obtain ⟨last, up, hrev⟩ := List.exists_cons_of_ne_nil (mt List.reverse_eq_nil_iff.1 hne)
  have hmk : Path.mk p.anchor (last :: up).reverse = p := by rw [← hrev, List.reverse_reverse]
  rw [climb, hrev, climbFrom, hmk]
  split
  · next hmissing => exact absurd hblocked (not_blocked_of_makeDir_noEntry hp husable hne hmissing).1
  · rfl

end
end Folder
end AmbientBundle
