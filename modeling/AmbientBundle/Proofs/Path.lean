import AmbientBundle.Path
import AmbientBundle.Proofs.Text

/-!
# Normal forms of paths

The parts of a path are put on a stack one by one, and `..` takes one back.  Two
facts about this stack carry the statements about names and specifiers.

* What is on the stack at the end was put there by the new parts, or lies in the part
  of the old stack that is left (`foldl_pushPart_eq`).  So the way from a directory to
  a place that was reached from it goes through new parts only.
* If the new parts do not lead out of where they start, they act on top of any stack
  as they do on the empty one (`foldl_pushPart_append`).  So a path that stays inside
  means the same wherever it starts.

The last groups are about the way from one place to another and about reading and
writing: a path that is written is read back as it was (`parse_toText`).
-/

namespace AmbientBundle
namespace Path

/-! ## The stack of parts -/

theorem pushPart_of_ne {absolute : Bool} {stack : List Text} {p : Text} (h : p ≠ upPart) :
    pushPart absolute stack p = p :: stack := by
  unfold pushPart
  rw [if_neg h]

/-- `..` takes back the part before it. -/
theorem pushPart_up_cons {absolute : Bool} {stack : List Text} {p : Text} (h : p ≠ upPart) :
    pushPart absolute (p :: stack) upPart = stack := by
  rw [pushPart, if_pos rfl]
  simp only [if_neg h]

/-- Parts other than `..` pile up. -/
theorem foldl_pushPart_of_no_up {absolute : Bool} {ps stack : List Text} (h : upPart ∉ ps) :
    ps.foldl (pushPart absolute) stack = ps.reverse ++ stack := by
  induction ps generalizing stack with
  | nil => rfl
  | cons p rest ih =>
    simp only [List.mem_cons, not_or] at h
    rw [List.foldl_cons, pushPart_of_ne (Ne.symm h.1), ih h.2, List.reverse_cons,
      List.append_assoc, List.singleton_append]

/-- A stack after one more part: new parts on what is left of the old stack. -/
theorem pushPart_eq (absolute : Bool) (new old : List Text) (k : Nat) (p : Text) :
    ∃ new' k', pushPart absolute (new ++ old.drop k) p = new' ++ old.drop k' ∧
      ∀ x ∈ new', x ∈ new ∨ x = p := by
  by_cases hp : p = upPart
  · subst hp
    cases new with
    | nil =>
      -- The step reaches into the old stack.
      cases hold : old.drop k with
      | nil =>
        refine ⟨if absolute then [] else [upPart], old.length, ?_, ?_⟩
        · rw [List.drop_length, List.append_nil, List.append_nil, pushPart, if_pos rfl]
        · intro x hx
          split at hx
          · cases hx
          · exact Or.inr (List.mem_singleton.1 hx)
      | cons top rest =>
        by_cases htop : top = upPart
        · refine ⟨[upPart], k, ?_, fun x hx => Or.inr (List.mem_singleton.1 hx)⟩
          rw [hold, List.nil_append, pushPart, if_pos rfl]
          simp only [if_pos htop, List.singleton_append]
        · refine ⟨[], k + 1, ?_, fun x hx => by cases hx⟩
          have hrest : old.drop (k + 1) = rest := by rw [List.drop_add_one_eq_tail_drop, hold]; rfl
          rw [List.nil_append, List.nil_append, pushPart_up_cons htop, hrest]
    | cons top rest =>
      by_cases htop : top = upPart
      · refine ⟨upPart :: top :: rest, k, ?_, ?_⟩
        · rw [List.cons_append, pushPart, if_pos rfl]
          simp only [if_pos htop, List.cons_append]
        · intro x hx
          rcases List.mem_cons.1 hx with rfl | hx
          · exact Or.inr rfl
          · exact Or.inl hx
      · refine ⟨rest, k, ?_, fun x hx => Or.inl (List.mem_cons_of_mem _ hx)⟩
        rw [List.cons_append, pushPart_up_cons htop]
  · refine ⟨p :: new, k, ?_, ?_⟩
    · rw [pushPart_of_ne hp, List.cons_append]
    · intro x hx
      rcases List.mem_cons.1 hx with rfl | hx
      · exact Or.inr rfl
      · exact Or.inl hx

/-- A stack after more parts: some of these on what is left of the old stack. -/
theorem foldl_pushPart_eq (absolute : Bool) (old ps : List Text) :
    ∃ new k, ps.foldl (pushPart absolute) old = new ++ old.drop k ∧ ∀ x ∈ new, x ∈ ps := by
  suffices h : ∀ (new : List Text) (k : Nat),
      ∃ new' k', ps.foldl (pushPart absolute) (new ++ old.drop k) = new' ++ old.drop k' ∧
        ∀ x ∈ new', x ∈ new ∨ x ∈ ps by
    obtain ⟨new, k, heq, hmem⟩ := h [] 0
    refine ⟨new, k, by simpa using heq, fun x hx => ?_⟩
    exact (hmem x hx).resolve_left List.not_mem_nil
  induction ps with
  | nil => exact fun new k => ⟨new, k, rfl, fun x hx => Or.inl hx⟩
  | cons p rest ih =>
    intro new k
    obtain ⟨new₁, k₁, hstep, hmem₁⟩ := pushPart_eq absolute new old k p
    obtain ⟨new₂, k₂, hrest, hmem₂⟩ := ih new₁ k₁
    refine ⟨new₂, k₂, by rw [List.foldl_cons, hstep, hrest], fun x hx => ?_⟩
    rcases hmem₂ x hx with hx | hx
    · rcases hmem₁ x hx with hx | rfl
      · exact Or.inl hx
      · exact Or.inr List.mem_cons_self
    · exact Or.inr (List.mem_cons_of_mem _ hx)

/-- A normal form has no parts of its own. -/
theorem mem_of_mem_normalParts {absolute : Bool} {ps : List Text} {x : Text}
    (h : x ∈ normalParts absolute ps) : x ∈ ps := by
  obtain ⟨new, k, heq, hmem⟩ := foldl_pushPart_eq absolute [] ps
  rw [normalParts, heq, List.drop_nil, List.append_nil, List.mem_reverse] at h
  exact hmem x h

/-! ## Paths that stay inside -/

/-- In a path that starts nowhere, `..` is never taken back. -/
theorem up_mem_pushPart {stack : List Text} {p : Text} (h : upPart ∈ stack) :
    upPart ∈ pushPart false stack p := by
  by_cases hp : p = upPart
  · subst hp
    cases stack with
    | nil => cases h
    | cons top rest =>
      by_cases htop : top = upPart
      · rw [pushPart, if_pos rfl]
        simp only [if_pos htop, List.mem_cons, true_or]
      · rw [pushPart_up_cons htop]
        exact (List.mem_cons.1 h).resolve_left (Ne.symm htop)
  · rw [pushPart_of_ne hp]
    exact List.mem_cons_of_mem _ h

theorem up_mem_foldl_pushPart {stack ps : List Text} (h : upPart ∈ stack) :
    upPart ∈ ps.foldl (pushPart false) stack := by
  induction ps generalizing stack with
  | nil => exact h
  | cons p rest ih => exact ih (up_mem_pushPart h)

/-- A part that does not lead out acts on the top of the stack only. -/
theorem pushPart_append {absolute : Bool} {new old : List Text} {p : Text}
    (h : upPart ∉ pushPart false new p) :
    pushPart absolute (new ++ old) p = pushPart false new p ++ old := by
  by_cases hp : p = upPart
  · subst hp
    cases new with
    | nil => exact absurd List.mem_cons_self h
    | cons top rest =>
      have htop : top ≠ upPart := by
        intro htop
        subst htop
        exact h (up_mem_pushPart List.mem_cons_self)
      rw [List.cons_append, pushPart_up_cons htop, pushPart_up_cons htop]
  · rw [pushPart_of_ne hp, pushPart_of_ne hp, List.cons_append]

/-- Parts that do not lead out act on any stack as they do on the empty one. -/
theorem foldl_pushPart_append {absolute : Bool} {new old ps : List Text}
    (h : upPart ∉ ps.foldl (pushPart false) new) :
    ps.foldl (pushPart absolute) (new ++ old) = ps.foldl (pushPart false) new ++ old := by
  induction ps generalizing new with
  | nil => rfl
  | cons p rest ih =>
    rw [List.foldl_cons] at h
    have hstep : upPart ∉ pushPart false new p := fun hup => h (up_mem_foldl_pushPart hup)
    rw [List.foldl_cons, pushPart_append hstep, ih h, List.foldl_cons]

/-- What follows a prefix without leading out of it is put in normal form on its own. -/
theorem normalParts_append {absolute : Bool} {base ps : List Text}
    (h : upPart ∉ normalParts false ps) :
    normalParts absolute (base ++ ps) = normalParts absolute base ++ normalParts false ps := by
  have hstack : upPart ∉ ps.foldl (pushPart false) [] := by
    simpa [normalParts] using h
  have hfold := @foldl_pushPart_append absolute [] (base.foldl (pushPart absolute) []) ps hstack
  rw [normalParts, List.foldl_append, ← List.nil_append (base.foldl _ _), hfold,
    List.reverse_append]
  rfl

/-- `..` takes a part back wherever it stands. -/
theorem normalParts_step_back {absolute : Bool} {x : Text} (hx : x ≠ upPart)
    (base ps : List Text) :
    normalParts absolute (base ++ [x] ++ [upPart] ++ ps) = normalParts absolute (base ++ ps) := by
  rw [normalParts, normalParts, List.foldl_append, List.foldl_append, List.foldl_append,
    List.foldl_append, List.foldl_cons, List.foldl_nil, List.foldl_cons, List.foldl_nil,
    pushPart_of_ne hx, pushPart_up_cons hx]

/-- Parts without `..` are in normal form. -/
theorem normalParts_of_no_up {absolute : Bool} {ps : List Text} (h : upPart ∉ ps) :
    normalParts absolute ps = ps := by
  rw [normalParts, foldl_pushPart_of_no_up h, List.append_nil, List.reverse_reverse]

/-- A normal form at the root has no `..`. -/
theorem up_not_mem_normalParts (ps : List Text) : upPart ∉ normalParts true ps := by
  suffices h : ∀ stack : List Text, upPart ∉ stack → upPart ∉ ps.foldl (pushPart true) stack by
    simpa [normalParts] using h [] List.not_mem_nil
  induction ps with
  | nil => exact fun stack hstack => hstack
  | cons p rest ih =>
    intro stack hstack
    refine ih _ ?_
    by_cases hp : p = upPart
    · subst hp
      cases stack with
      | nil => exact List.not_mem_nil
      | cons top more =>
        simp only [List.mem_cons, not_or] at hstack
        rw [pushPart_up_cons (Ne.symm hstack.1)]
        exact hstack.2
    · rw [pushPart_of_ne hp]
      simp only [List.mem_cons, not_or]
      exact ⟨Ne.symm hp, hstack⟩

/-- In a path that starts nowhere, every `..` is at the bottom of the stack. -/
theorem getLast?_pushPart {stack : List Text} {p : Text}
    (h : upPart ∈ stack → stack.getLast? = some upPart) :
    upPart ∈ pushPart false stack p → (pushPart false stack p).getLast? = some upPart := by
  by_cases hp : p = upPart
  · subst hp
    cases stack with
    | nil => exact fun _ => rfl
    | cons top rest =>
      by_cases htop : top = upPart
      · subst htop
        intro _
        have hlast := h List.mem_cons_self
        rw [pushPart, if_pos rfl]
        simp only [if_true]
        rw [List.getLast?_cons_cons]
        exact hlast
      · rw [pushPart_up_cons htop]
        intro hmem
        have hlast := h (List.mem_cons_of_mem _ hmem)
        cases rest with
        | nil => cases hmem
        | cons next more => rwa [List.getLast?_cons_cons] at hlast
  · rw [pushPart_of_ne hp]
    intro hmem
    have hmem' : upPart ∈ stack := (List.mem_cons.1 hmem).resolve_left (Ne.symm hp)
    have hlast := h hmem'
    cases stack with
    | nil => cases hmem'
    | cons top rest => rwa [List.getLast?_cons_cons]

/-- A normal form with a `..` starts with one. -/
theorem head?_normalParts_of_up_mem {ps : List Text} (h : upPart ∈ normalParts false ps) :
    (normalParts false ps).head? = some upPart := by
  suffices hstack : ∀ stack : List Text, (upPart ∈ stack → stack.getLast? = some upPart) →
      upPart ∈ ps.foldl (pushPart false) stack →
      (ps.foldl (pushPart false) stack).getLast? = some upPart by
    rw [normalParts, List.head?_reverse]
    refine hstack [] (fun hmem => absurd hmem List.not_mem_nil) ?_
    simpa [normalParts] using h
  clear h
  induction ps with
  | nil => exact fun stack hstack => hstack
  | cons p rest ih => exact fun stack hstack => ih _ (getLast?_pushPart hstack)

/-! ## Further down -/

/-- Names further down. -/
def descend (p : Path) (ns : List Text) : Path := { p with parts := p.parts ++ ns }

@[simp] theorem descend_nil (p : Path) : p.descend [] = p := by
  simp only [descend, List.append_nil]

theorem descend_cons (p : Path) (n : Text) (ns : List Text) :
    p.descend (n :: ns) = (p.child n).descend ns := by
  simp only [descend, child, List.append_assoc, List.singleton_append]

theorem join_descend (p q : Path) (ns : List Text) :
    p.join (q.descend ns) = (p.join q).descend ns := by
  obtain ⟨anchor, parts⟩ := q
  cases anchor with
  | here => simp only [join, descend, List.append_assoc]
  | root => rfl
  | doubleRoot => rfl

/-! ## The way from a directory to a place -/

theorem parts_normal {p : Path} (h : p.isAbsolute = true) :
    p.normal.parts = normalParts true p.parts := by
  rw [normal, h]

theorem join_of_here {p q : Path} (h : q.anchor = .here) :
    p.join q = ⟨p.anchor, p.parts ++ q.parts⟩ := by
  rw [join, h]

theorem join_of_isAbsolute {p q : Path} (h : q.isAbsolute = true) : p.join q = q := by
  obtain ⟨anchor, parts⟩ := q
  cases anchor with
  | here => cases h
  | root => rfl
  | doubleRoot => rfl

/-- What is followed from the root stays at the root. -/
theorem isAbsolute_join {p : Path} (h : p.isAbsolute = true) (q : Path) :
    (p.join q).isAbsolute = true := by
  obtain ⟨anchor, parts⟩ := q
  cases anchor with
  | here => exact h
  | root => rfl
  | doubleRoot => rfl

/-- Following one path and then another is following them together. -/
theorem join_join (p q r : Path) : p.join (q.join r) = (p.join q).join r := by
  obtain ⟨anchor, parts⟩ := r
  cases anchor with
  | root => rfl
  | doubleRoot => rfl
  | here =>
    obtain ⟨anchor', parts'⟩ := q
    cases anchor' with
    | root => rfl
    | doubleRoot => rfl
    | here => simp only [join, List.append_assoc]

theorem join_child (p q : Path) (name : Text) : p.join (q.child name) = (p.join q).child name := by
  obtain ⟨anchor, parts⟩ := q
  cases anchor with
  | here => simp only [join, child, List.append_assoc]
  | root => rfl
  | doubleRoot => rfl

/-- Making a path absolute and normal again changes nothing. -/
theorem under_under {dir p : Path} (h : (dir.join p).isAbsolute = true) :
    under dir (under dir p) = under dir p := by
  have habs : (under dir p).isAbsolute = true := h
  have hparts : (under dir p).parts = normalParts true (dir.join p).parts := parts_normal h
  rw [under, join_of_isAbsolute habs, normal, habs, hparts,
    normalParts_of_no_up (up_not_mem_normalParts _), ← hparts]

theorem normal_under {dir p : Path} (h : dir.isAbsolute = true) :
    (under dir p).normal = under dir p := by
  have hjoin := isAbsolute_join h p
  have habs : (under dir p).isAbsolute = true := hjoin
  have hunder := under_under hjoin
  rwa [under, join_of_isAbsolute habs] at hunder

@[simp] theorem relativeParts_nil (ps : List Text) : relativeParts [] ps = ps := by
  simp [relativeParts]

/-- What two places share at the front does not matter. -/
theorem relativeParts_append (base ss ps : List Text) :
    relativeParts (base ++ ss) (base ++ ps) = relativeParts ss ps := by
  induction base with
  | nil => rfl
  | cons b rest ih => rw [List.cons_append, List.cons_append, relativeParts, if_pos rfl, ih]

/-- From a directory to a place below it the way leads down only. -/
theorem relativeParts_self_append (base ps : List Text) : relativeParts base (base ++ ps) = ps := by
  have h := relativeParts_append base [] ps
  rwa [List.append_nil, relativeParts_nil] at h

/-- The way to a place goes up, and through parts of that place. -/
theorem mem_relativeParts {ss ps : List Text} {x : Text} (h : x ∈ relativeParts ss ps) :
    x = upPart ∨ x ∈ ps := by
  fun_induction relativeParts ss ps with
  | case1 s ss ps ih =>
    rcases ih h with hx | hx
    · exact Or.inl hx
    · exact Or.inr (List.mem_cons_of_mem _ hx)
  | case2 s ss p ps hne =>
    rcases List.mem_append.1 h with hx | hx
    · exact Or.inl (List.eq_of_mem_replicate hx)
    · exact Or.inr hx
  | case3 ss ps hno =>
    rcases List.mem_append.1 h with hx | hx
    · exact Or.inl (List.eq_of_mem_replicate hx)
    · exact Or.inr hx

/-- The way from a directory to a place that was reached from it goes up, and through the
parts that led there. -/
theorem mem_relativeParts_normalParts {base ps : List Text} {x : Text}
    (h : x ∈ relativeParts (normalParts true base) (normalParts true (base ++ ps))) :
    x = upPart ∨ x ∈ ps := by
  obtain ⟨new, k, heq, hmem⟩ := foldl_pushPart_eq true (base.foldl (pushPart true) []) ps
  generalize hold : base.foldl (pushPart true) [] = old at heq
  have hbase : normalParts true base = (old.drop k).reverse ++ (old.take k).reverse := by
    rw [normalParts, hold, ← List.reverse_append, List.take_append_drop]
  have hplace : normalParts true (base ++ ps) = (old.drop k).reverse ++ new.reverse := by
    rw [normalParts, List.foldl_append, hold, heq, List.reverse_append]
  rw [hbase, hplace, relativeParts_append] at h
  rcases mem_relativeParts h with hx | hx
  · exact Or.inl hx
  · exact Or.inr (hmem x (List.mem_reverse.1 hx))

/-! ## Reading and writing -/

/-- A part as it stands between slashes. -/
def Proper (p : Text) : Prop := isPart p = true ∧ '/' ∉ p

theorem Proper.ne_nil {p : Text} (h : Proper p) : p ≠ [] := by
  have hpart := h.1
  intro hnil
  subst hnil
  exact absurd hpart (by decide)

/-- The parts of a path that was read are proper. -/
theorem proper_of_mem_parse {t p : Text} (h : p ∈ (parse t).parts) : Proper p := by
  obtain ⟨hmem, hpart⟩ := List.mem_filter.1 h
  exact ⟨hpart, Text.not_mem_of_mem_splitOn hmem⟩

/-- The characters of a part were in the text it was read from. -/
theorem mem_of_mem_parse {t p : Text} {c : Char} (hp : p ∈ (parse t).parts) (hc : c ∈ p) :
    c ∈ t :=
  Text.mem_of_mem_splitOn (List.mem_filter.1 hp).1 hc

theorem proper_upPart : Proper upPart := ⟨by decide, by decide⟩

/-- The characters of written parts. -/
theorem mem_partsText {ps : List Text} {c : Char} (h : c ∈ partsText ps) :
    c = '.' ∨ c = '/' ∨ ∃ p ∈ ps, c ∈ p := by
  cases ps with
  | nil => exact Or.inl (List.mem_singleton.1 h)
  | cons p rest => exact Or.inr (Text.mem_joinWith h)

theorem partsText_of_ne_nil {ps : List Text} (h : ps ≠ []) :
    partsText ps = Text.joinWith '/' ps := by
  cases ps with
  | nil => exact absurd rfl h
  | cons p rest => rfl

/-- Written parts are never empty. -/
theorem partsText_ne_nil {ps : List Text} (h : ∀ p ∈ ps, p ≠ []) : partsText ps ≠ [] := by
  cases ps with
  | nil => exact List.cons_ne_nil _ _
  | cons p rest =>
    cases p with
    | nil => exact absurd rfl (h [] List.mem_cons_self)
    | cons c p =>
      obtain ⟨t, ht⟩ := Text.joinWith_cons_cons '/' c p rest
      rw [partsText, ht]
      · exact List.cons_ne_nil _ _
      · exact List.cons_ne_nil _ _

/-- A normal form with a `..` is written with one in front. -/
theorem up_prefix_partsText {ps : List Text} (h : upPart ∈ normalParts false ps) :
    upPart <+: partsText (normalParts false ps) := by
  obtain ⟨rest, hparts⟩ := List.head?_eq_some_iff.1 (head?_normalParts_of_up_mem h)
  rw [hparts, partsText_of_ne_nil (List.cons_ne_nil _ _)]
  cases rest with
  | nil => exact List.prefix_rfl
  | cons p more => exact List.prefix_append upPart _

theorem filter_isPart {ps : List Text} (h : ∀ p ∈ ps, Proper p) : ps.filter isPart = ps :=
  List.filter_eq_self.2 fun p hp => (h p hp).1

/-- A text in front of which no slash stands has no anchor. -/
theorem anchorOf_of_ne {c : Char} (h : c ≠ '/') (t : Text) : anchorOf (c :: t) = .here := by
  simp [anchorOf, h]

theorem anchor_parse_of_start {t : Text} (h : t.head? ≠ some '/') : (parse t).anchor = .here := by
  cases t with
  | nil => rfl
  | cons c t =>
    refine anchorOf_of_ne ?_ t
    intro hc
    subst hc
    exact h rfl

/-- Proper parts with slashes between them start with no slash. -/
theorem joinWith_proper {ps : List Text} (hne : ps ≠ []) (h : ∀ p ∈ ps, Proper p) :
    ∃ c t, Text.joinWith '/' ps = c :: t ∧ c ≠ '/' := by
  cases ps with
  | nil => exact absurd rfl hne
  | cons p rest =>
    have hp := h p List.mem_cons_self
    cases p with
    | nil => exact absurd rfl hp.ne_nil
    | cons c p =>
      obtain ⟨t, ht⟩ := Text.joinWith_cons_cons '/' c p rest
      refine ⟨c, t, ht, ?_⟩
      intro hc
      subst hc
      exact hp.2 List.mem_cons_self

/-- The pieces of a written path are its parts, after an empty one for each slash of its
anchor. -/
theorem splitOn_toText {p : Path} (hne : p.parts ≠ []) (h : ∀ x ∈ p.parts, Proper x) :
    Text.splitOn '/' p.toText = List.replicate p.anchor.toText.length [] ++ p.parts := by
  have hjoin : Text.splitOn '/' (Text.joinWith '/' p.parts) = p.parts :=
    Text.splitOn_joinWith hne fun x hx => (h x hx).2
  obtain ⟨anchor, parts⟩ := p
  cases anchor with
  | here =>
    cases parts with
    | nil => exact absurd rfl hne
    | cons x rest => exact hjoin
  | root =>
    change Text.splitOn '/' ('/' :: Text.joinWith '/' parts) = [] :: parts
    rw [Text.splitOn, if_pos rfl, hjoin]
  | doubleRoot =>
    change Text.splitOn '/' ('/' :: '/' :: Text.joinWith '/' parts) = [] :: [] :: parts
    rw [Text.splitOn, if_pos rfl, Text.splitOn, if_pos rfl, hjoin]

/-- The anchor of a written path is the anchor it has. -/
theorem anchorOf_toText {p : Path} (h : ∀ x ∈ p.parts, Proper x) :
    anchorOf p.toText = p.anchor := by
  obtain ⟨anchor, parts⟩ := p
  by_cases hne : parts = []
  · subst hne
    cases anchor <;> rfl
  · obtain ⟨c, t, ht, hc⟩ := joinWith_proper hne h
    cases anchor with
    | here =>
      cases parts with
      | nil => exact absurd rfl hne
      | cons x rest =>
        change anchorOf (Text.joinWith '/' (x :: rest)) = _
        rw [ht, anchorOf_of_ne hc]
    | root =>
      change anchorOf ('/' :: Text.joinWith '/' parts) = _
      rw [ht]
      simp [anchorOf, hc]
    | doubleRoot =>
      change anchorOf ('/' :: '/' :: Text.joinWith '/' parts) = _
      rw [ht]
      simp [anchorOf, hc]

/-- A written path is read back as it was. -/
theorem parse_toText {p : Path} (h : ∀ x ∈ p.parts, Proper x) : parse p.toText = p := by
  by_cases hne : p.parts = []
  · obtain ⟨anchor, parts⟩ := p
    simp only at hne
    subst hne
    cases anchor <;> decide
  · have hempty : (List.replicate p.anchor.toText.length ([] : Text)).filter isPart = [] := by
      rw [List.filter_eq_nil_iff]
      intro x hx
      rw [List.eq_of_mem_replicate hx]
      decide
    rw [parse, anchorOf_toText h, splitOn_toText hne h, List.filter_append, hempty,
      filter_isPart h, List.nil_append]

/-- Proper parts with slashes between them are read back as they were. -/
theorem parse_joinWith {ps : List Text} (hne : ps ≠ []) (h : ∀ p ∈ ps, Proper p) :
    parse (Text.joinWith '/' ps) = ⟨.here, ps⟩ := by
  have hread := parse_toText (p := ⟨.here, ps⟩) h
  cases ps with
  | nil => exact absurd rfl hne
  | cons p rest => exact hread

end Path
end AmbientBundle
