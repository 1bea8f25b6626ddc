import AmbientBundle.Proofs.FileTree.Settled
import AmbientBundle.Session

/-!
# Paths that a host takes

A file system can be asked for a text that holds no NUL and no loose half of a pair, and for a path
whose parts are such texts.  A host *takes* a path that is settled and can be asked for.  What is
made of such paths and of ASCII names is taken too.
-/

namespace AmbientBundle

variable {halves : Halves}

namespace Halves

theorem isLoose_ascii {c : Char} (h : c.toNat < 0x80) : halves.isLoose c = false := by
  rw [isLoose, halves.code?_ascii c h]

end Halves

/-! ## Texts -/

namespace Text

variable {t : Text}

theorem fault?_eq_none_iff :
    fault? halves t = none ↔ ∀ c ∈ t, halves.isLoose c = false ∧ c ≠ '\x00' := by
  have hloose : t.any halves.isLoose = false ↔ ∀ c ∈ t, halves.isLoose c = false := by simp
  have hnul : t.contains '\x00' = false ↔ ∀ c ∈ t, c ≠ '\x00' := by
    simp only [List.contains_eq_mem, decide_eq_false_iff_not]
    exact ⟨fun h c hc heq => h (heq ▸ hc), fun h hmem => h _ hmem rfl⟩
  rw [forall₂_and, ← hloose, ← hnul, fault?]
  cases t.any halves.isLoose <;> cases t.contains '\x00' <;> simp

/-- A text that cannot be asked for has no bytes or holds a NUL. -/
theorem eq_of_fault? {f : Fault} (h : fault? halves t = some f) :
    f = .unencodable ∨ f = .misuse .range := by
  rw [fault?] at h
  split at h
  · exact Or.inl (Option.some.inj h).symm
  · split at h
    · exact Or.inr (Option.some.inj h).symm
    · cases h

/-- Whether a text is of ASCII and holds no NUL. -/
def isPlain (t : Text) : Bool := t.all fun c => decide (c.toNat < 0x80) && c != '\x00'

theorem isPlain_iff : isPlain t = true ↔ ∀ c ∈ t, c.toNat < 0x80 ∧ c ≠ '\x00' := by
  simp [isPlain]

/-- Such a text can be asked for. -/
theorem fault?_of_isPlain (h : isPlain t = true) : fault? halves t = none :=
  fault?_eq_none_iff.2 fun c hc =>
    ⟨Halves.isLoose_ascii (isPlain_iff.1 h c hc).1, (isPlain_iff.1 h c hc).2⟩

end Text

/-! ## Paths -/

namespace Path

variable {p q : Path}

theorem fault?_eq_none_iff :
    p.fault? halves = none ↔ ∀ x ∈ p.parts, Text.fault? halves x = none := by
  simp only [fault?, Text.fault?_eq_none_iff, List.mem_flatten]
  exact ⟨fun h x hx c hc => h c ⟨x, hx, hc⟩, fun h c ⟨x, hx, hc⟩ => h x hx c hc⟩

/-- A path can be followed part by part exactly if it can be asked for as a whole. -/
theorem partFault?_eq_none_iff : p.partFault? halves = none ↔ p.fault? halves = none := by
  rw [fault?_eq_none_iff, partFault?, List.findSome?_eq_none_iff]

/-- Where a path cannot be asked for, that is no fault of a manifest. -/
theorem fault?_ne_manifest {cause : ManifestFault} :
    p.fault? halves ≠ some (.manifest cause) := by
  intro h
  rcases Text.eq_of_fault? h with heq | heq <;> cases heq

theorem fault?_child {name : Text} :
    (p.child name).fault? halves = none ↔
      p.fault? halves = none ∧ Text.fault? halves name = none := by
  simp only [fault?_eq_none_iff, child, List.mem_append, List.mem_singleton]
  exact ⟨fun h => ⟨fun x hx => h x (Or.inl hx), h name (Or.inr rfl)⟩,
    fun h x hx => hx.elim (h.1 x) fun heq => heq ▸ h.2⟩

/-- A name that can be asked for does not matter. -/
theorem fault?_child_eq {name : Text} (h : Text.fault? halves name = none) :
    (p.child name).fault? halves = p.fault? halves := by
  have hname := Text.fault?_eq_none_iff.1 h
  have hloose : name.any halves.isLoose = false := by
    rw [List.any_eq_false]
    exact fun c hc => Bool.eq_false_iff.1 (hname c hc).1
  have hnul : name.contains '\x00' = false := by
    simp only [List.contains_eq_mem, decide_eq_false_iff_not]
    exact fun hmem => (hname _ hmem).2 rfl
  simp only [fault?, child, List.flatten_append, List.flatten_cons, List.flatten_nil,
    List.append_nil, Text.fault?, List.any_append, hloose, Bool.or_false, List.contains_eq_mem,
    List.mem_append] at hnul ⊢
  simp only [of_decide_eq_false hnul, or_false]

theorem fault?_join (hp : p.fault? halves = none) :
    (p.join q).fault? halves = none ↔ q.fault? halves = none := by
  obtain ⟨anchor, parts⟩ := q
  cases anchor with
  | here =>
    rw [fault?_eq_none_iff] at hp
    simp only [fault?_eq_none_iff, join, List.mem_append]
    exact ⟨fun h x hx => h x (Or.inr hx), fun h x hx => hx.elim (hp x) (h x)⟩
  | root => rfl
  | doubleRoot => rfl

/-- A path can be asked for exactly if the text it is read from can. -/
theorem fault?_parse {t : Text} :
    (parse t).fault? halves = none ↔ Text.fault? halves t = none := by
  rw [fault?_eq_none_iff]
  constructor
  · intro h
    refine Text.fault?_eq_none_iff.2 fun c hc => ?_
    rw [← Text.joinWith_splitOn '/' t] at hc
    rcases Text.mem_joinWith hc with rfl | ⟨x, hx, hmem⟩
    · exact ⟨Halves.isLoose_ascii (by decide), by decide⟩
    · by_cases hpart : isPart x = true
      · exact Text.fault?_eq_none_iff.1 (h x (List.mem_filter.2 ⟨hx, hpart⟩)) c hmem
      · -- What leads nowhere is a dot or nothing.
        have hhere : x = [] ∨ x = herePart := by
          simpa [isPart, Classical.or_iff_not_imp_left] using hpart
        rcases hhere with rfl | rfl
        · cases hmem
        · rw [List.mem_singleton.1 hmem]
          exact ⟨Halves.isLoose_ascii (by decide), by decide⟩
  · intro h x hx
    exact Text.fault?_eq_none_iff.2 fun c hc =>
      Text.fault?_eq_none_iff.1 h c (mem_of_mem_parse hx hc)

end Path

/-! ## Faults of texts and paths -/

/-- Whether a value was misused, or a text has no UTF-8. -/
def Fault.IsMisuse : Fault → Prop
  | .misuse _ => True
  | .unencodable => True
  | _ => False

/-- A text that no file system can be asked for is misused. -/
theorem Text.isMisuse_of_fault? {t : Text} {f : Fault} (h : fault? halves t = some f) :
    f.IsMisuse := by
  rcases eq_of_fault? h with rfl | rfl <;> trivial

theorem Path.isMisuse_of_fault? {p : Path} {f : Fault} (h : p.fault? halves = some f) : f.IsMisuse :=
  Text.isMisuse_of_fault? h

theorem Path.eq_of_partFault? {p : Path} {f : Fault} (h : p.partFault? halves = some f) :
    f = .unencodable ∨ f = .misuse .range := by
  obtain ⟨t, -, ht⟩ := List.exists_of_findSome?_eq_some h
  exact Text.eq_of_fault? ht

theorem Path.isMisuse_of_partFault? {p : Path} {f : Fault} (h : p.partFault? halves = some f) :
    f.IsMisuse := by
  rcases Path.eq_of_partFault? h with rfl | rfl <;> trivial

/-! ## Hosts -/

/-- A settled path that the file system of a host can be asked for. -/
structure Host.Takes (host : Host) (p : Path) : Prop where
  /-- It means one place. -/
  settled : p.Settled
  /-- It can be asked for. -/
  clean : p.fault? host.halves = none

instance (host : Host) (p : Path) : Decidable (host.Takes p) :=
  decidable_of_iff (p.Settled ∧ p.fault? host.halves = none)
    ⟨fun h => ⟨h.1, h.2⟩, fun h => ⟨h.settled, h.clean⟩⟩

namespace Host.Takes

variable {host : Host} {p : Path}

/-- One proper ASCII name further down. -/
theorem child (hp : host.Takes p) {n : Text} (hn : Path.Proper n ∧ n ≠ upPart)
    (hplain : Text.isPlain n = true) : host.Takes (p.child n) :=
  ⟨hp.settled.child hn, Path.fault?_child.2 ⟨hp.clean, Text.fault?_of_isPlain hplain⟩⟩

end Host.Takes
end AmbientBundle
