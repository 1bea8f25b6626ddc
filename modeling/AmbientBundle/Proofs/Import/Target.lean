import AmbientBundle.Proofs.Import.Redirection
import AmbientBundle.Proofs.Path

/-!
# What a specifier becomes

The working directory has no part in what a specifier becomes.  The way that `locate`
writes starts there, and goes up or through the parts of the owner and the specifier
(`mem_locate`), so a target is as plain as the texts it is made from
(`plain_target`).  If the specifier does not lead out of the directory that holds the
package, the target is the normal form of the owner, `..` and the specifier
(`locate_eq_of_inside`).
-/

namespace AmbientBundle

/-- A backslash becomes a slash and nothing else changes. -/
theorem mem_slashed {t : Text} {c : Char} (h : c ∈ slashed t) : c = '/' ∨ c ∈ t := by
  obtain ⟨d, hd, hc⟩ := List.mem_map.1 h
  split at hc
  · exact Or.inl hc.symm
  · exact Or.inr (hc ▸ hd)

namespace Import

/-! ## Relative specifiers -/

/-- A relative specifier starts with a dot. -/
theorem isRelative_iff {w : Text} : isRelative w = true ↔ ∃ t, w = '.' :: t := by
  constructor
  · intro h
    unfold isRelative at h
    split at h
    · exact ⟨_, rfl⟩
    · cases h
  · rintro ⟨t, rfl⟩
    rfl

/-- What starts with another character is not relative. -/
theorem isRelative_cons_of_ne {c : Char} (h : c ≠ '.') (t : Text) :
    isRelative (c :: t) = false := by
  simp [isRelative, h]

/-- A backslash in front of a name is no dot. -/
theorem isRelative_slashed (t : Text) : isRelative (slashed t) = isRelative t := by
  cases t with
  | nil => rfl
  | cons c t =>
    by_cases hc : c = '.'
    · subst hc
      rfl
    · rw [isRelative_cons_of_ne hc, slashed, List.map_cons]
      split
      · rfl
      · exact isRelative_cons_of_ne hc _

theorem anchor_parse_of_relative {w : Text} (h : isRelative w = true) :
    (Path.parse w).anchor = .here := by
  obtain ⟨t, rfl⟩ := isRelative_iff.1 h
  have hdot : '.' ≠ '/' := by decide
  exact Path.anchorOf_of_ne hdot t

/-- The parts of the owner, then `..`, then those of the specifier. -/
def steps (owner w : Text) : List Text :=
  (Path.parse owner).parts ++ [upPart] ++ (Path.parse w).parts

theorem mem_steps {owner w x : Text} (h : x ∈ steps owner w) :
    x = upPart ∨ x ∈ (Path.parse owner).parts ∨ x ∈ (Path.parse w).parts := by
  simp only [steps, List.mem_append, List.mem_singleton] at h
  rcases h with (h | h) | h
  · exact Or.inr (Or.inl h)
  · exact Or.inl h
  · exact Or.inr (Or.inr h)

/-- Where a specifier leads from the directory that holds the package. -/
def besideOwner (owner w : Text) : Path :=
  (((Path.parse owner).child upPart).join (Path.parse w)).normal

/-- A specifier that does not lead out of the directory that holds the package, nor to a name
with a dot in front. -/
def StaysInside (owner w : Text) : Prop :=
  (besideOwner owner w).anchor = .here ∧ isRelative (besideOwner owner w).toText = false

instance (owner w : Text) : Decidable (StaysInside owner w) :=
  inferInstanceAs (Decidable (_ ∧ _))

theorem besideOwner_eq {owner w : Text} (hw : (Path.parse w).anchor = .here)
    (howner : (Path.parse owner).anchor = .here) :
    besideOwner owner w = ⟨.here, Path.normalParts false (steps owner w)⟩ := by
  have hbeside : ((Path.parse owner).child upPart).join (Path.parse w) =
      ⟨(Path.parse owner).anchor, steps owner w⟩ := Path.join_of_here hw
  rw [besideOwner, hbeside, howner]
  rfl

theorem anchor_besideOwner {owner w : Text} (hw : isRelative w = true) :
    (besideOwner owner w).anchor = (Path.parse owner).anchor := by
  rw [besideOwner, Path.join_of_here (anchor_parse_of_relative hw)]
  rfl

/-- A specifier that stays inside passes through no `..` once it is in normal form. -/
theorem StaysInside.no_up {owner w : Text} (h : StaysInside owner w) (hw : isRelative w = true) :
    upPart ∉ Path.normalParts false (steps owner w) := by
  have howner : (Path.parse owner).anchor = .here := anchor_besideOwner hw ▸ h.1
  have hrel := h.2
  rw [besideOwner_eq (anchor_parse_of_relative hw) howner] at hrel
  intro hup
  obtain ⟨t, ht⟩ := Path.up_prefix_partsText hup
  have htext : Path.toText ⟨.here, Path.normalParts false (steps owner w)⟩ = upPart ++ t :=
    ht.symm
  rw [htext] at hrel
  cases hrel

namespace Resolver

variable {r : Resolver} {owner w : Text}

/-- Where the search for specifiers starts. -/
def ground (r : Resolver) : Path := r.namer.cwd.join r.namer.workingDir

/-! ## The way to a target -/

/-- The parts that lead from the ground to the place beside an owner. -/
def way (r : Resolver) (w owner : Text) : List Text :=
  Path.relativeParts r.ground.normal.parts
    (((r.ground.join (Path.parse owner)).child upPart).join (Path.parse w)).normal.parts

theorem locate_eq (r : Resolver) (w owner : Text) :
    r.locate w owner = slashed (Path.partsText (r.way w owner)) := by
  simp only [locate, Namer.nameOf, Namer.relativeText, Namer.baseParts, Path.under, Bool.false_and,
    Bool.false_eq_true, if_false, if_true, way, ground]
  rw [Path.join_join, Path.join_child, Path.join_join]

/-- A target is what was located, or that with the name of a directory's module. -/
theorem target_eq (r : Resolver) (w owner : Text) :
    r.target w owner = r.locate w owner ∨ r.target w owner = r.locate w owner ++ indexSuffix := by
  rw [target]
  split
  · exact Or.inl rfl
  · exact Or.inr rfl

/-- The place beside an owner that is not anchored lies on the way from the ground. -/
theorem parts_place (habs : r.ground.isAbsolute = true) (hw : (Path.parse w).anchor = .here)
    (howner : (Path.parse owner).anchor = .here) :
    (((r.ground.join (Path.parse owner)).child upPart).join (Path.parse w)).normal.parts =
      Path.normalParts true (r.ground.parts ++ steps owner w) := by
  have hplace : ((r.ground.join (Path.parse owner)).child upPart).join (Path.parse w) =
      ⟨r.ground.anchor, r.ground.parts ++ steps owner w⟩ := by
    rw [Path.join_of_here hw, Path.join_of_here howner, steps]
    simp only [Path.child, List.append_assoc]
  rw [hplace]
  exact Path.parts_normal habs

/-- A specifier that does not lead out of the directory that holds the package leads to the
same place from everywhere. -/
theorem locate_eq_of_inside (habs : r.ground.isAbsolute = true)
    (hw : (Path.parse w).anchor = .here) (howner : (Path.parse owner).anchor = .here)
    (hup : upPart ∉ Path.normalParts false (steps owner w)) :
    r.locate w owner = slashed (besideOwner owner w).toText := by
  rw [locate_eq, way, parts_place habs hw howner, Path.parts_normal habs,
    Path.normalParts_append hup, Path.relativeParts_self_append, besideOwner_eq hw howner]
  rfl

section

variable (habs : r.ground.isAbsolute = true) (hw : isRelative w = true)
include habs hw

/-- The parts of the way to a target go up, or are parts of the owner and the specifier. -/
theorem mem_way {x : Text} (hx : x ∈ r.way w owner) :
    x = upPart ∨ x ∈ (Path.parse owner).parts ∨ x ∈ (Path.parse w).parts := by
  unfold way at hx
  by_cases howner : (Path.parse owner).anchor = .here
  · rw [parts_place habs (anchor_parse_of_relative hw) howner, Path.parts_normal habs] at hx
    rcases Path.mem_relativeParts_normalParts hx with hx | hx
    · exact Or.inl hx
    · exact mem_steps hx
  · have hanchored : (Path.parse owner).isAbsolute = true := by
      simpa [Path.isAbsolute] using howner
    rw [Path.join_of_isAbsolute hanchored, Path.join_of_here (anchor_parse_of_relative hw)] at hx
    rcases Path.mem_relativeParts hx with hx | hx
    · exact Or.inl hx
    · exact mem_steps (Path.mem_of_mem_normalParts hx)

/-- Every part of the way to a target is proper. -/
theorem proper_way {x : Text} (hx : x ∈ r.way w owner) : Path.Proper x := by
  rcases mem_way habs hw hx with rfl | hx | hx
  · exact Path.proper_upPart
  · exact Path.proper_of_mem_parse hx
  · exact Path.proper_of_mem_parse hx

/-- The characters of a target are dots, slashes and those of the owner and the specifier. -/
theorem mem_locate {c : Char} (hc : c ∈ r.locate w owner) :
    c = '/' ∨ c = '.' ∨ c ∈ owner ∨ c ∈ w := by
  rw [locate_eq] at hc
  rcases mem_slashed hc with hc | hc
  · exact Or.inl hc
  rcases Path.mem_partsText hc with hc | hc | ⟨x, hx, hc⟩
  · exact Or.inr (Or.inl hc)
  · exact Or.inl hc
  · rcases mem_way habs hw hx with rfl | hx | hx
    · exact Or.inr (Or.inl (by simpa [upPart] using hc))
    · exact Or.inr (Or.inr (Or.inl (Path.mem_of_mem_parse hx hc)))
    · exact Or.inr (Or.inr (Or.inr (Path.mem_of_mem_parse hx hc)))

theorem locate_ne_nil : r.locate w owner ≠ [] := by
  rw [locate_eq]
  intro hnil
  exact Path.partsText_ne_nil (fun x hx => (proper_way habs hw hx).ne_nil)
    (List.map_eq_nil_iff.1 hnil)

/-! ## Targets -/

theorem target_ne_nil : r.target w owner ≠ [] := by
  have hne : r.locate w owner ≠ [] := locate_ne_nil habs hw
  rcases r.target_eq w owner with h | h
  · rwa [h]
  · rw [h]
    exact List.append_ne_nil_of_left_ne_nil hne _

/-- A target is as plain as the owner and the specifier. -/
theorem plain_target (howner : Plain owner) (hplain : Plain w) : Plain (r.target w owner) := by
  have hlocate : Plain (r.locate w owner) := by
    intro c hc
    rcases mem_locate habs hw hc with rfl | rfl | hc | hc
    · decide
    · decide
    · exact howner c hc
    · exact hplain c hc
  rcases r.target_eq w owner with h | h
  · rwa [h]
  · rw [h]
    intro c hc
    rcases List.mem_append.1 hc with hc | hc
    · exact hlocate c hc
    · have hindex : Plain indexSuffix := by decide
      exact hindex c hc

/-- The target of a specifier that stays inside is not relative. -/
theorem isRelative_target (hin : StaysInside owner w) : isRelative (r.target w owner) = false := by
  have howner : (Path.parse owner).anchor = .here := anchor_besideOwner hw ▸ hin.1
  have hlocate : isRelative (r.locate w owner) = false := by
    rw [locate_eq_of_inside habs (anchor_parse_of_relative hw) howner (hin.no_up hw),
      isRelative_slashed]
    exact hin.2
  rcases r.target_eq w owner with h | h
  · rwa [h]
  · rw [h]
    cases hl : r.locate w owner with
    | nil => exact absurd hl (locate_ne_nil habs hw)
    | cons c t =>
      rw [hl] at hlocate
      refine isRelative_cons_of_ne ?_ _
      intro hc
      subst hc
      cases hlocate

end

end Resolver
end Import
end AmbientBundle
