import Mathlib.Data.List.Forall2
import Mathlib.Data.List.Infix
import Mathlib.Data.List.TakeWhile
import AmbientBundle.Import.Reference
import AmbientBundle.Proofs.Text

/-!
# Sites of a line

A line has a site of a form wherever the opening of the form, a quote, a specifier, a
quote and the closing of the form stand one after the other.  `Form.IsSite` says so
of a cut of the line, with no mention of how sites are searched for, and
`leftmost_eq_some_iff` says that the search finds the one with the shortest text in
front.  `sites` lists all of them, so that what is said of all sites can be computed.

Since a specifier holds no quote, two sites of one line, of whatever forms, are the
same or lie apart.  They may share a quote: the closing quote of one may be the opening
quote of the next (`Site.Quoted.before_eq`).  A line in which a form opens no more than
once has no more than one site of the form (`Form.IsSite.eq_of_openings`).
-/

namespace AmbientBundle
namespace Import

/-! ## What a site is -/

/-- A cut of a line around something between quotes. -/
structure Site.Quoted (s : Site) : Prop where
  /-- A quote stands in front. -/
  opened : ∃ pre q, s.before = pre ++ [q] ∧ isQuote q = true
  /-- No quote stands inside. -/
  bare : ∀ c ∈ s.specifier, isQuote c = false
  /-- A quote follows. -/
  closed : ∃ q post, s.after = q :: post ∧ isQuote q = true

/-- A cut of a line around the specifier of a form. -/
structure Form.IsSite (f : Form) (s : Site) : Prop where
  /-- The opening and a quote stand in front. -/
  opened : ∃ pre q, s.before = pre ++ f.opening ++ [q] ∧ isQuote q = true
  /-- There is a specifier. -/
  filled : s.specifier ≠ []
  /-- No quote stands inside. -/
  bare : ∀ c ∈ s.specifier, isQuote c = false
  /-- A quote and the closing follow. -/
  closed : ∃ q post, s.after = q :: (f.closing ++ post) ∧ isQuote q = true

theorem Form.IsSite.quoted {f : Form} {s : Site} (h : f.IsSite s) : s.Quoted where
  opened := by
    obtain ⟨pre, q, hb, hq⟩ := h.opened
    exact ⟨pre ++ f.opening, q, hb, hq⟩
  bare := h.bare
  closed := by
    obtain ⟨q, post, ha, hq⟩ := h.closed
    exact ⟨q, f.closing ++ post, ha, hq⟩

/-- No form starts closer to the front than its opening and a quote take. -/
theorem Form.IsSite.length_before {f : Form} {s : Site} (h : f.IsSite s) :
    f.opening.length + 1 ≤ s.before.length := by
  obtain ⟨pre, q, hb, _⟩ := h.opened
  rw [hb]
  simp only [List.length_append, List.length_singleton]
  omega

/-- The two forms open differently. -/
theorem Form.IsSite.form_eq {f g : Form} {s : Site} (hf : f.IsSite s) (hg : g.IsSite s) :
    f = g := by
  obtain ⟨pre, q, hb, _⟩ := hf.opened
  obtain ⟨pre', q', hb', _⟩ := hg.opened
  rw [hb] at hb'
  have hlast : (pre ++ f.opening).getLast? = (pre' ++ g.opening).getLast? := by
    rw [(List.append_inj' hb' rfl).1]
  cases f <;> cases g <;> simp [Form.opening] at hlast ⊢

/-! ## Sites at the front of a text -/

/-- What stands before the first quote. -/
theorem takeWhile_bare {x : Text} {q : Char} (hx : ∀ c ∈ x, isQuote c = false)
    (hq : isQuote q = true) (post : Text) : (x ++ q :: post).takeWhile (!isQuote ·) = x := by
  rw [List.takeWhile_append_of_pos (by simpa using hx),
    List.takeWhile_cons_of_neg (by simp [hq]), List.append_nil]

/-- The first quote and what follows it. -/
theorem dropWhile_bare {x : Text} {q : Char} (hx : ∀ c ∈ x, isQuote c = false)
    (hq : isQuote q = true) (post : Text) :
    (x ++ q :: post).dropWhile (!isQuote ·) = q :: post := by
  rw [List.dropWhile_append_of_pos (by simpa using hx),
    List.dropWhile_cons_of_neg (by simp [hq])]

/-- What is read between quotes at the front of a text. -/
theorem quoted?_eq_some_iff {ending t x after : Text} {q : Char} :
    quoted? ending t = some (q, x, after) ↔
      t = q :: (x ++ after) ∧ isQuote q = true ∧ x ≠ [] ∧ (∀ c ∈ x, isQuote c = false) ∧
        ∃ q' post, after = q' :: (ending ++ post) ∧ isQuote q' = true := by
  constructor
  · intro h
    have ht := quoted?_eq_some h
    subst ht
    simp only [quoted?] at h
    split at h
    · next hq =>
      split at h
      · cases h
      · next closing tail hd =>
        split at h
        · next hx =>
          simp only [Option.some.injEq, Prod.mk.injEq, true_and] at h
          obtain ⟨htake, hafter⟩ := h
          obtain ⟨post, hpost⟩ := Text.startsWith_iff.1 hx.2
          refine ⟨rfl, hq, htake ▸ hx.1, ?_, closing, post, by rw [← hafter, hpost], ?_⟩
          · intro c hc
            rw [← htake] at hc
            simpa using List.mem_takeWhile_imp hc
          · have hhead := List.head?_dropWhile_not (fun c => !isQuote c) (x ++ after)
            rw [hd] at hhead
            simpa using hhead
        · cases h
    · cases h
  · rintro ⟨rfl, hq, hx, hbare, q', post, rfl, hq'⟩
    have hstart : Text.startsWith (ending ++ post) ending = true :=
      Text.startsWith_iff.2 (List.prefix_append ending post)
    simp only [quoted?, hq, if_true, takeWhile_bare hbare hq', dropWhile_bare hbare hq', hx,
      hstart, ne_eq, not_false_eq_true, and_self]

/-- A site is found at the front of a text if it starts there. -/
theorem Form.at?_eq_some_iff {f : Form} {t : Text} {s : Site} :
    f.at? t = some s ↔
      f.IsSite s ∧ s.line = t ∧ s.before.length = f.opening.length + 1 := by
  constructor
  · intro h
    have hline := Form.at?_line h
    unfold Form.at? at h
    split at h
    · cases h
    · split at h
      · cases h
      · next q x after hq =>
        simp only [Option.some.injEq] at h
        subst h
        obtain ⟨_, hquote, hx, hbare, hafter⟩ := quoted?_eq_some_iff.1 hq
        exact ⟨⟨⟨[], q, rfl, hquote⟩, hx, hbare, hafter⟩, hline, by simp⟩
  · rintro ⟨hs, rfl, hlen⟩
    obtain ⟨pre, q, hb, hquote⟩ := hs.opened
    have hpre : pre = [] := by
      rw [hb] at hlen
      simp only [List.length_append, List.length_singleton] at hlen
      exact List.length_eq_zero_iff.1 (by omega)
    subst hpre
    obtain ⟨before, x, after⟩ := s
    simp only [List.nil_append] at hb
    subst hb
    have hword : Text.dropWord? f.opening (f.opening ++ [q] ++ x ++ after) =
        some (q :: (x ++ after)) := by
      rw [Text.dropWord?_eq_some_iff]
      simp
    have hq : quoted? f.closing (q :: (x ++ after)) = some (q, x, after) :=
      quoted?_eq_some_iff.2 ⟨rfl, hquote, hs.filled, hs.bare, hs.closed⟩
    simp only [Form.at?, Site.line, hword, hq]

/-! ## The leftmost site -/

/-- A site is a site of every line that ends with its line. -/
theorem Form.IsSite.prepend {f : Form} {s : Site} (h : f.IsSite s) (front : Text) :
    f.IsSite { s with before := front ++ s.before } where
  opened := by
    obtain ⟨pre, q, hb, hq⟩ := h.opened
    exact ⟨front ++ pre, q, by simp [hb], hq⟩
  filled := h.filled
  bare := h.bare
  closed := h.closed

theorem Form.IsSite.shift {f : Form} {s : Site} (h : f.IsSite s) (c : Char) :
    f.IsSite (s.shift c) :=
  h.prepend [c]

/-- A site of a line starts at the front of it or is a site of the rest of the line. -/
theorem Form.IsSite.at?_or_shift {f : Form} {s : Site} {c : Char} {rest : Text} (h : f.IsSite s)
    (hline : s.line = c :: rest) :
    f.at? (c :: rest) = some s ∨ ∃ s', s = s'.shift c ∧ f.IsSite s' ∧ s'.line = rest := by
  obtain ⟨pre, q, hb, hq⟩ := h.opened
  cases pre with
  | nil => exact Or.inl (Form.at?_eq_some_iff.2 ⟨h, hline, by simp [hb]⟩)
  | cons d pre =>
    obtain ⟨before, x, after⟩ := s
    simp only at hb
    subst hb
    simp only [Site.line, List.cons_append, List.cons.injEq] at hline
    obtain ⟨rfl, hrest⟩ := hline
    exact Or.inr ⟨⟨pre ++ f.opening ++ [q], x, after⟩, rfl,
      ⟨⟨pre, q, rfl, hq⟩, h.filled, h.bare, h.closed⟩, hrest⟩

/-- Where no site starts at the front of a line, its sites are sites of the rest of the line. -/
theorem Form.IsSite.unshift {f : Form} {s : Site} {c : Char} {rest : Text} (h : f.IsSite s)
    (hline : s.line = c :: rest) (hat : f.at? (c :: rest) = none) :
    ∃ s', s = s'.shift c ∧ f.IsSite s' ∧ s'.line = rest := by
  refine (h.at?_or_shift hline).resolve_left fun hfront => ?_
  rw [hat] at hfront
  cases hfront

/-- There is something in front of every site. -/
theorem Form.IsSite.line_ne_nil {f : Form} {s : Site} (h : f.IsSite s) : s.line ≠ [] := by
  obtain ⟨pre, q, hb, _⟩ := h.opened
  intro hnil
  simp [Site.line, hb] at hnil

/-- The search finds a site if there is one, and the one with the least in front of it. -/
theorem leftmost_eq_some_iff {f : Form} {t : Text} {s : Site} :
    leftmost f t = some s ↔
      f.IsSite s ∧ s.line = t ∧
        ∀ u, f.IsSite u → u.line = t → s.before.length ≤ u.before.length := by
  induction t generalizing s with
  | nil =>
    rw [leftmost]
    constructor
    · intro h
      cases h
    · rintro ⟨hs, hline, _⟩
      exact absurd hline hs.line_ne_nil
  | cons c rest ih =>
    rw [leftmost]
    cases hat : f.at? (c :: rest) with
    | some first =>
      obtain ⟨hfirst, hfline, hflen⟩ := Form.at?_eq_some_iff.1 hat
      constructor
      · intro h
        cases h
        exact ⟨hfirst, hfline, fun u hu _ => hflen ▸ hu.length_before⟩
      · rintro ⟨hs, hline, hleast⟩
        have hle := hleast first hfirst hfline
        have hge := hs.length_before
        have hs' := Form.at?_eq_some_iff.2 ⟨hs, hline, by omega⟩
        rw [hat] at hs'
        exact hs'
    | none =>
      -- No site starts here, so the sites of the line are those of its rest, moved by one.
      constructor
      · intro h
        obtain ⟨s', hs', rfl⟩ := Option.map_eq_some_iff.1 h
        obtain ⟨hsite, hline, hleast⟩ := ih.1 hs'
        refine ⟨hsite.shift c, by rw [Site.line_shift, hline], fun u hu huline => ?_⟩
        obtain ⟨u', rfl, hu', hline'⟩ := hu.unshift huline hat
        have hle := hleast u' hu' hline'
        simp only [Site.shift, List.length_cons]
        omega
      · rintro ⟨hs, hline, hleast⟩
        obtain ⟨s', rfl, hs', hline'⟩ := hs.unshift hline hat
        refine Option.map_eq_some_iff.2 ⟨s', ih.2 ⟨hs', hline', fun u hu huline => ?_⟩, rfl⟩
        have hle := hleast (u.shift c) (hu.shift c) (by rw [Site.line_shift, huline])
        simp only [Site.shift, List.length_cons] at hle
        omega

theorem isSite_of_leftmost {f : Form} {t : Text} {s : Site} (h : leftmost f t = some s) :
    f.IsSite s :=
  (leftmost_eq_some_iff.1 h).1

/-! ## All sites -/

/-- The sites of a form in a line, from left to right. -/
def sites (f : Form) : Text → List Site
  | [] => []
  | c :: rest => (f.at? (c :: rest)).toList ++ (sites f rest).map (Site.shift c)

theorem mem_sites {f : Form} {t : Text} {s : Site} : s ∈ sites f t ↔ f.IsSite s ∧ s.line = t := by
  induction t generalizing s with
  | nil =>
    constructor
    · intro h
      cases h
    · rintro ⟨hs, hline⟩
      exact absurd hline hs.line_ne_nil
  | cons c rest ih =>
    rw [sites, List.mem_append, Option.mem_toList, List.mem_map]
    constructor
    · rintro (hat | ⟨s', hs', rfl⟩)
      · obtain ⟨hs, hline, _⟩ := Form.at?_eq_some_iff.1 hat
        exact ⟨hs, hline⟩
      · obtain ⟨hs, hline⟩ := ih.1 hs'
        exact ⟨hs.shift c, by rw [Site.line_shift, hline]⟩
    · rintro ⟨hs, hline⟩
      rcases hs.at?_or_shift hline with hat | ⟨s', rfl, hs', hline'⟩
      · exact Or.inl hat
      · exact Or.inr ⟨s', ih.2 ⟨hs', hline'⟩, rfl⟩

/-- The search finds the first of all sites. -/
theorem leftmost_eq_head? (f : Form) (t : Text) : leftmost f t = (sites f t).head? := by
  induction t with
  | nil => rfl
  | cons c rest ih =>
    rw [leftmost, sites]
    cases f.at? (c :: rest) with
    | some s => rfl
    | none => rw [ih, Option.toList_none, List.nil_append, List.head?_map]

/-- The search finds nothing only where there is no site. -/
theorem leftmost_eq_none_iff {f : Form} {t : Text} :
    leftmost f t = none ↔ ∀ s, f.IsSite s → s.line ≠ t := by
  rw [leftmost_eq_head?, List.head?_eq_none_iff, List.eq_nil_iff_forall_not_mem]
  simp only [mem_sites, not_and]

/-- The references of a source are the leftmost specifiers of its lines. -/
theorem mem_references_iff {source w : Text} :
    w ∈ references source .allImports ↔
      ∃ line ∈ source.splitLines, ∃ f, specifier? f line = some w := by
  rw [references, List.mem_append, List.mem_filterMap, List.mem_filterMap]
  · constructor
    · rintro (⟨line, hline, hw⟩ | ⟨line, hline, hw⟩)
      · exact ⟨line, hline, .static, hw⟩
      · exact ⟨line, hline, .dynamic, hw⟩
    · rintro ⟨line, hline, f, hw⟩
      cases f with
      | static => exact Or.inl ⟨line, hline, hw⟩
      | dynamic => exact Or.inr ⟨line, hline, hw⟩
  · exact ShakePolicy.noConfusion

/-! ## Two sites of one line -/

namespace Site.Quoted

/-- Of two sites of a line, one that has more in front of it comes after the closing quote of
the other or starts with it. -/
theorem before_eq {s u : Site} (hs : s.Quoted) (hu : u.Quoted) (hline : s.line = u.line)
    (hlt : s.before.length < u.before.length) :
    ∃ m, m ≠ [] ∧ u.before = s.before ++ s.specifier ++ m ∧
      s.after = m ++ u.specifier ++ u.after := by
  obtain ⟨pre, q, hb, hq⟩ := hu.opened
  -- What `u` has in front is what `s` has in front and more, and ends in a quote.
  have happ : s.before ++ (s.specifier ++ s.after) = u.before ++ (u.specifier ++ u.after) := by
    simpa [Site.line] using hline
  obtain ⟨more, hmore, hrest⟩ : ∃ more, u.before = s.before ++ more ∧
      s.specifier ++ s.after = more ++ (u.specifier ++ u.after) := by
    rcases List.append_eq_append_iff.1 happ with ⟨more, h₁, h₂⟩ | ⟨less, h₁, _⟩
    · exact ⟨more, h₁, h₂⟩
    · rw [h₁, List.length_append] at hlt
      omega
  have hends : ∃ front, more = front ++ [q] := by
    rcases List.eq_nil_or_concat more with rfl | ⟨front, last, rfl⟩
    · rw [List.append_nil] at hmore
      rw [hmore] at hlt
      exact absurd hlt (Nat.lt_irrefl _)
    · rw [hb, List.concat_eq_append, ← List.append_assoc] at hmore
      rw [List.concat_eq_append, (List.append_inj' hmore rfl).2]
      exact ⟨front, rfl⟩
  obtain ⟨front, rfl⟩ := hends
  -- That quote is not inside the specifier of `s`.
  have hout : ∀ x, s.specifier ≠ front ++ [q] ++ x := by
    intro x hx
    have hbare := hs.bare q (by rw [hx]; simp)
    rw [hq] at hbare
    cases hbare
  rcases List.append_eq_append_iff.1 hrest with ⟨m, h₁, h₂⟩ | ⟨x, h₁, _⟩
  · refine ⟨m, ?_, by rw [hmore, h₁, List.append_assoc], by rw [h₂, List.append_assoc]⟩
    intro hnil
    subst hnil
    exact hout [] (by rw [List.append_nil, h₁, List.append_nil])
  · exact absurd h₁ (hout x)

/-- Sites of a line with as much in front are the same. -/
theorem eq_of_length {s u : Site} (hs : s.Quoted) (hu : u.Quoted) (hline : s.line = u.line)
    (hlen : s.before.length = u.before.length) : s = u := by
  obtain ⟨before, x, after⟩ := s
  obtain ⟨before', x', after'⟩ := u
  simp only [Site.line, List.append_assoc] at hline hlen
  obtain ⟨rfl, hrest⟩ := List.append_inj hline hlen
  obtain ⟨q, post, ha, hq⟩ := hs.closed
  obtain ⟨q', post', ha', hq'⟩ := hu.closed
  simp only at ha ha'
  have htake := takeWhile_bare (x := x) hs.bare hq post
  rw [← ha, hrest, ha', takeWhile_bare (x := x') hu.bare hq' post'] at htake
  have hx : x = x' := htake.symm
  subst hx
  rw [List.append_cancel_left hrest]

end Site.Quoted

/-! ## Lines with one opening -/

/-- Whether a text starts with the opening of a form and a quote. -/
def Form.opensAt (f : Form) (t : Text) : Bool :=
  match Text.dropWord? f.opening t with
  | some (q :: _) => isQuote q
  | _ => false

/-- How often the opening of a form stands before a quote in a line. -/
def Form.openings (f : Form) (line : Text) : Nat := line.tails.countP f.opensAt

/-- Every site has its own place where the form opens. -/
theorem Form.IsSite.opensAt {f : Form} {s : Site} (h : f.IsSite s) :
    ∃ pre t, s.line = pre ++ t ∧ f.opensAt t = true ∧
      s.before.length = pre.length + f.opening.length + 1 := by
  obtain ⟨pre, q, hb, hq⟩ := h.opened
  refine ⟨pre, f.opening ++ q :: (s.specifier ++ s.after), ?_, ?_, ?_⟩
  · simp [Site.line, hb]
  · have hdrop := Text.dropWord?_eq_some_iff.2
      (rfl : f.opening ++ q :: (s.specifier ++ s.after) = _)
    rw [Form.opensAt, hdrop]
    exact hq
  · simp only [hb, List.length_append, List.length_singleton]

/-- Where a form opens no more than once, it has no more than one site. -/
theorem Form.IsSite.eq_of_openings {f : Form} {line : Text} {s u : Site}
    (hone : f.openings line ≤ 1) (hs : f.IsSite s) (hu : f.IsSite u) (hsline : s.line = line)
    (huline : u.line = line) : s = u := by
  obtain ⟨pre, t, ht, hopen, hlen⟩ := hs.opensAt
  obtain ⟨pre', t', ht', hopen', hlen'⟩ := hu.opensAt
  have hmem : t ∈ line.tails.filter f.opensAt :=
    List.mem_filter.2 ⟨(List.mem_tails t line).2 ⟨pre, by rw [← ht, hsline]⟩, hopen⟩
  have hmem' : t' ∈ line.tails.filter f.opensAt :=
    List.mem_filter.2 ⟨(List.mem_tails t' line).2 ⟨pre', by rw [← ht', huline]⟩, hopen'⟩
  rw [Form.openings, List.countP_eq_length_filter] at hone
  have heq : t = t' := by
    cases hopens : line.tails.filter f.opensAt with
    | nil =>
      rw [hopens] at hmem
      cases hmem
    | cons first rest =>
      rw [hopens] at hone hmem hmem'
      have hrest : rest = [] := List.length_eq_zero_iff.1 (by simpa using hone)
      rw [hrest, List.mem_singleton] at hmem hmem'
      rw [hmem, hmem']
  subst heq
  have hpre : pre = pre' := by
    have hcut : pre ++ t = pre' ++ t := by rw [← ht, ← ht', hsline, huline]
    exact List.append_cancel_right hcut
  exact hs.quoted.eq_of_length hu.quoted (hsline.trans huline.symm) (by rw [hlen, hlen', hpre])

/-- Then it is the leftmost one. -/
theorem Form.IsSite.leftmost_of_openings {f : Form} {line : Text} {s : Site}
    (hone : f.openings line ≤ 1) (hs : f.IsSite s) (hline : s.line = line) :
    leftmost f line = some s := by
  cases hleft : leftmost f line with
  | none => exact absurd hline (leftmost_eq_none_iff.1 hleft s hs)
  | some u =>
    have heq : s = u :=
      hs.eq_of_openings hone (isSite_of_leftmost hleft) hline (leftmost_line hleft)
    rw [heq]

/-! ## Line by line -/

/-- Lines that are each related to what a function makes of them, and to nothing else, are
mapped. -/
theorem forall₂_iff_map_eq {α : Type} {f : Text → α} {R : Text → α → Prop}
    (h : ∀ line a, R line a ↔ f line = a) {lines : List Text} {as : List α} :
    List.Forall₂ R lines as ↔ lines.map f = as := by
  have hR : R = fun line a => f line = a := funext₂ fun line a => propext (h line a)
  rw [hR, ← List.forall₂_map_left_iff (R := Eq), List.forall₂_eq_eq_eq]

end Import
end AmbientBundle
