import AmbientBundle.Import.Resolver
import AmbientBundle.Text.Blank
import AmbientBundle.Proofs.Import.Site

/-!
# Another specifier in the same place

Redirecting a site changes the line that all other sites stand in.  `Site.Moved` says
where each of them goes: a site to the left keeps what is in front of it, a site to
the right keeps what follows it, and no two sites change their order.

A site may share a quote with the one that is redirected, and whether it is a site
then hangs on the ends of the specifier in between.  An opening ends in a space or a
parenthesis and a closing starts with a parenthesis, so a *plain* specifier, which has
neither of them, can be replaced by any other plain one: no site comes or goes
(`Site.Moved.isSite`).  Hence the leftmost site of each form stays the leftmost one
(`leftmost_moved`), and a form that is not the redirected one cannot tell the two lines
apart (`SameSites`).
-/

namespace AmbientBundle
namespace Import

/-- A text without quotes, white space and parentheses. -/
def Plain (t : Text) : Prop :=
  ∀ c ∈ t, isQuote c = false ∧ Text.isBlank c = false ∧ c ≠ '(' ∧ c ≠ ')'

instance (t : Text) : Decidable (Plain t) := List.decidableBAll _ t

theorem Plain.bare {t : Text} (h : Plain t) : ∀ c ∈ t, isQuote c = false :=
  fun c hc => (h c hc).1

/-! ## Shared quotes -/

/-- What closes a site to the left does not hang on a plain text behind its closing quote. -/
theorem closed_of_plain {f : Form} {m x y after : Text} (hm : m ≠ []) (hx : Plain x) (hne : x ≠ [])
    (h : ∃ q post, m ++ x ++ after = q :: (f.closing ++ post) ∧ isQuote q = true) :
    ∃ q post, m ++ y ++ after = q :: (f.closing ++ post) ∧ isQuote q = true := by
  obtain ⟨q, post, heq, hq⟩ := h
  cases m with
  | nil => exact absurd rfl hm
  | cons q' m =>
    simp only [List.cons_append, List.cons.injEq] at heq
    obtain ⟨rfl, heq⟩ := heq
    cases f with
    | static => exact ⟨q', m ++ y ++ after, rfl, hq⟩
    | dynamic =>
      cases m with
      | nil =>
        cases x with
        | nil => exact absurd rfl hne
        | cons c x =>
          simp only [Form.closing, List.nil_append, List.cons_append, List.cons.injEq] at heq
          exact absurd heq.1 (hx c List.mem_cons_self).2.2.2
      | cons c m =>
        simp only [Form.closing, List.cons_append, List.cons.injEq] at heq
        obtain ⟨rfl, _⟩ := heq
        exact ⟨q', m ++ y ++ after, rfl, hq⟩

theorem Form.opening_bare (f : Form) : ∀ c ∈ f.opening, isQuote c = false := by
  cases f with
  | static => simp [Form.opening, isQuote]
  | dynamic => simp [Form.opening, isQuote]

/-- An opening never ends with a plain text. -/
theorem Form.opening_ne_plain {f : Form} {b pre x : Text} (hx : Plain x) (hne : x ≠ []) :
    b ++ x ≠ pre ++ f.opening := by
  intro heq
  have hlast : (b ++ x).getLast? = (pre ++ f.opening).getLast? := by rw [heq]
  rcases List.eq_nil_or_concat x with rfl | ⟨front, c, rfl⟩
  · exact hne rfl
  · have hc := hx c (by simp)
    cases f with
    | static =>
      simp [Form.opening] at hlast
      subst hlast
      exact absurd hc.2.1 (by decide)
    | dynamic =>
      simp [Form.opening] at hlast
      exact hc.2.2.1 hlast

/-- What opens a site to the right does not hang on a plain text in front of its opening
quote. -/
theorem opened_of_plain {f : Form} {b m x y : Text} (hx : Plain x) (hne : x ≠ [])
    (hm : ∃ q post, m = q :: post ∧ isQuote q = true)
    (h : ∃ pre q, b ++ x ++ m = pre ++ f.opening ++ [q] ∧ isQuote q = true) :
    ∃ pre q, b ++ y ++ m = pre ++ f.opening ++ [q] ∧ isQuote q = true := by
  obtain ⟨q, post, rfl, hq⟩ := hm
  obtain ⟨pre, last, heq, hlast⟩ := h
  rcases List.eq_nil_or_concat (q :: post) with hnil | ⟨front, c, hfront⟩
  · cases hnil
  rw [List.concat_eq_append] at hfront
  rw [hfront, ← List.append_assoc] at heq
  obtain ⟨hbody, hc⟩ := List.append_inj' heq rfl
  rw [List.singleton_inj] at hc
  subst hc
  rw [hfront]
  rcases List.append_eq_append_iff.1 hbody with ⟨between, hpre, hopen⟩ | ⟨between, hpre, hopen⟩
  · exact ⟨b ++ y ++ between, c, by rw [hopen]; simp, hlast⟩
  · cases front with
    | nil =>
      rw [List.append_nil] at hopen
      rw [← hopen] at hpre
      exact absurd hpre (Form.opening_ne_plain hx hne)
    | cons d front =>
      -- The opening would reach over the quote on its left.
      simp only [List.cons_append, List.cons.injEq] at hfront
      have hbare := f.opening_bare d (by rw [hopen]; simp)
      rw [← hfront.1, hq] at hbare
      cases hbare

/-! ## Where sites go -/

/-- Where the sites of a line go when the specifier of one of them becomes another one. -/
inductive Site.Moved (s : Site) (x : Text) : Site → Site → Prop where
  /-- A site to the left. -/
  | left (b w m : Text) (hm : m ≠ []) (hb : s.before = b ++ w ++ m) :
      Moved s x ⟨b, w, m ++ s.specifier ++ s.after⟩ ⟨b, w, m ++ x ++ s.after⟩
  /-- The site itself. -/
  | here : Moved s x s { s with specifier := x }
  /-- A site to the right. -/
  | right (w m a : Text) (hm : m ≠ []) (ha : s.after = m ++ w ++ a) :
      Moved s x ⟨s.before ++ s.specifier ++ m, w, a⟩ ⟨s.before ++ x ++ m, w, a⟩

namespace Site.Moved

variable {s u u' v v' : Site} {x : Text}

/-- Every site of the line goes somewhere. -/
theorem of_quoted (hs : s.Quoted) (hu : u.Quoted) (hline : u.line = s.line) (x : Text) :
    ∃ u', Moved s x u u' := by
  rcases Nat.lt_trichotomy u.before.length s.before.length with hlt | heq | hgt
  · obtain ⟨m, hm, hb, ha⟩ := hu.before_eq hs hline hlt
    obtain ⟨b, w, a⟩ := u
    simp only at ha
    subst ha
    exact ⟨_, .left b w m hm hb⟩
  · cases hu.eq_of_length hs hline heq
    exact ⟨_, .here⟩
  · obtain ⟨m, hm, hb, ha⟩ := hs.before_eq hu hline.symm hgt
    obtain ⟨b, w, a⟩ := u
    simp only at hb
    subst hb
    exact ⟨_, .right w m a hm ha⟩

/-- Putting the old specifier back moves every site back. -/
theorem symm (h : Moved s x u u') : Moved { s with specifier := x } s.specifier u' u := by
  cases h with
  | left b w m hm hb => exact .left (s := { s with specifier := x }) b w m hm hb
  | here => exact .here
  | right w m a hm ha => exact .right (s := { s with specifier := x }) w m a hm ha

/-- The moved sites are cuts of the new line. -/
theorem line_eq (h : Moved s x u u') : u'.line = s.withSpecifier x := by
  cases h with
  | left b w m hm hb => simp [Site.line, Site.withSpecifier, hb]
  | here => rfl
  | right w m a hm ha => simp [Site.line, Site.withSpecifier, ha]

/-- Sites keep their order. -/
theorem length_before_le (hu : Moved s x u u') (hv : Moved s x v v')
    (h : u.before.length ≤ v.before.length) : u'.before.length ≤ v'.before.length := by
  cases hu with
  | left b w m hm hb =>
    cases hv with
    | left b' w' m' hm' hb' => exact h
    | here => exact h
    | right w' m' a' hm' ha' =>
      simp only [hb, List.length_append]
      omega
  | here =>
    cases hv with
    | left b' w' m' hm' hb' => exact h
    | here => exact h
    | right w' m' a' hm' ha' =>
      simp only [List.length_append]
      omega
  | right w m a hm ha =>
    have hpos : 0 < m.length := List.length_pos_iff.2 hm
    cases hv with
    | left b' w' m' hm' hb' =>
      simp only [hb', List.length_append] at h
      omega
    | here =>
      simp only [List.length_append] at h
      omega
    | right w' m' a' hm' ha' =>
      simp only [List.length_append] at h ⊢
      omega

/-- Only the site itself gets another specifier. -/
theorem specifier_eq (h : Moved s x u u') : u = s ∧ u' = { s with specifier := x } ∨
    u ≠ s ∧ u'.specifier = u.specifier := by
  cases h with
  | left b w m hm hb =>
    refine Or.inr ⟨?_, rfl⟩
    intro heq
    have hlen := congrArg (·.before.length) heq
    simp only [hb, List.length_append] at hlen
    have hpos : 0 < m.length := List.length_pos_iff.2 hm
    omega
  | here => exact Or.inl ⟨rfl, rfl⟩
  | right w m a hm ha =>
    refine Or.inr ⟨?_, rfl⟩
    intro heq
    have hlen := congrArg (·.before.length) heq
    simp only [List.length_append] at hlen
    have hpos : 0 < m.length := List.length_pos_iff.2 hm
    omega

end Site.Moved

/-! ## Lines with the same sites -/

/-- The sites of a form are found again in another line, with the same specifiers and the same one
of them leftmost. -/
def SitesKept (f : Form) (line line' : Text) : Prop :=
  ∀ u, f.IsSite u → u.line = line → ∃ u', f.IsSite u' ∧ u'.line = line' ∧
    u'.specifier = u.specifier ∧ (leftmost f line' = some u' ↔ leftmost f line = some u)

/-- Two lines that a form cannot tell apart. -/
structure SameSites (f : Form) (line line' : Text) : Prop where
  /-- Each site of the first line is one of the second. -/
  forth : SitesKept f line line'
  /-- Each site of the second line is one of the first. -/
  back : SitesKept f line' line

namespace SameSites

theorem refl (f : Form) (line : Text) : SameSites f line line where
  forth := fun u hu hline => ⟨u, hu, hline, rfl, Iff.rfl⟩
  back := fun u hu hline => ⟨u, hu, hline, rfl, Iff.rfl⟩

/-- The leftmost specifiers are the same. -/
theorem specifier?_eq {f : Form} {line line' : Text} (h : SameSites f line line') :
    specifier? f line' = specifier? f line := by
  rw [specifier?, specifier?]
  cases hu : leftmost f line with
  | some u =>
    obtain ⟨u', _, _, hspec, hleft⟩ := h.forth u (isSite_of_leftmost hu) (leftmost_line hu)
    rw [hleft.2 hu, Option.map_some, Option.map_some, hspec]
  | none =>
    cases hu' : leftmost f line' with
    | none => rfl
    | some u' =>
      obtain ⟨u, _, _, _, hleft⟩ := h.back u' (isSite_of_leftmost hu') (leftmost_line hu')
      rw [hleft.2 hu'] at hu
      cases hu

end SameSites

/-! ## Plain specifiers -/

/-- One plain specifier in the place of another. -/
structure Site.Exchange (s : Site) (x : Text) : Prop where
  /-- The place is between quotes. -/
  quoted : s.Quoted
  /-- The old specifier is plain. -/
  old : Plain s.specifier
  /-- There is an old specifier. -/
  old_ne : s.specifier ≠ []
  /-- The new specifier is plain. -/
  new : Plain x
  /-- There is a new specifier. -/
  new_ne : x ≠ []

/-- The new specifier stands between the same quotes. -/
theorem Site.Exchange.symm {s : Site} {x : Text} (h : s.Exchange x) :
    Site.Exchange { s with specifier := x } s.specifier where
  quoted := ⟨h.quoted.opened, h.new.bare, h.quoted.closed⟩
  old := h.new
  old_ne := h.new_ne
  new := h.old
  new_ne := h.old_ne

section

variable {f g : Form} {s u u' : Site} {x : Text}

/-- Every site stays a site. -/
theorem Site.Moved.isSite (h : s.Moved x u u') (hx : s.Exchange x) (hu : f.IsSite u) :
    f.IsSite u' := by
  cases h with
  | left b w m hm hb =>
    exact ⟨hu.opened, hu.filled, hu.bare, closed_of_plain hm hx.old hx.old_ne hu.closed⟩
  | here => exact ⟨hu.opened, hx.new_ne, hx.new.bare, hu.closed⟩
  | right w m a hm ha =>
    have hquote : ∃ q post, m = q :: post ∧ isQuote q = true := by
      obtain ⟨q, post, hafter, hq⟩ := hx.quoted.closed
      cases m with
      | nil => exact absurd rfl hm
      | cons d m =>
        rw [ha] at hafter
        simp only [List.cons_append, List.cons.injEq] at hafter
        exact ⟨d, m, rfl, hafter.1 ▸ hq⟩
    exact ⟨opened_of_plain hx.old hx.old_ne hquote hu.opened, hu.filled, hu.bare, hu.closed⟩

/-- Every site of the line goes to a site of the new line. -/
theorem Site.Exchange.moved (hx : s.Exchange x) (hu : f.IsSite u) (hline : u.line = s.line) :
    ∃ u', s.Moved x u u' ∧ f.IsSite u' ∧ u'.line = s.withSpecifier x := by
  obtain ⟨u', hmoved⟩ := Site.Moved.of_quoted hx.quoted hu.quoted hline x
  exact ⟨u', hmoved, hmoved.isSite hx hu, hmoved.line_eq⟩

/-- Every site of the new line comes from a site of the line. -/
theorem Site.Exchange.moved_back (hx : s.Exchange x) (hu : f.IsSite u')
    (hline : u'.line = s.withSpecifier x) :
    ∃ u, s.Moved x u u' ∧ f.IsSite u ∧ u.line = s.line := by
  obtain ⟨u, hmoved, hsite, hback⟩ := hx.symm.moved hu hline
  exact ⟨u, hmoved.symm, hsite, hback⟩

/-- The leftmost site of a form goes to the leftmost one. -/
theorem leftmost_moved (hx : s.Exchange x) (h : s.Moved x u u')
    (hu : leftmost f s.line = some u) : leftmost f (s.withSpecifier x) = some u' := by
  obtain ⟨hsite, _, hleast⟩ := leftmost_eq_some_iff.1 hu
  refine leftmost_eq_some_iff.2 ⟨h.isSite hx hsite, h.line_eq, fun v' hv' hline => ?_⟩
  obtain ⟨v, hv, hvsite, hvline⟩ := hx.moved_back hv' hline
  exact h.length_before_le hv (hleast v hvsite hvline)

/-- Whether a site is the leftmost one of a form does not change. -/
theorem leftmost_moved_iff (hx : s.Exchange x) (h : s.Moved x u u') :
    leftmost f (s.withSpecifier x) = some u' ↔ leftmost f s.line = some u :=
  ⟨leftmost_moved hx.symm h.symm, leftmost_moved hx h⟩

/-- The leftmost specifier of a form is exchanged. -/
theorem specifier?_withSpecifier_self (hx : s.Exchange x) (h : leftmost f s.line = some s) :
    specifier? f (s.withSpecifier x) = some x := by
  rw [specifier?, leftmost_moved hx .here h]
  rfl

/-- A site of another form goes to a site with the same specifier, which is leftmost if it was. -/
theorem Site.Exchange.other (hx : s.Exchange x) (hs : f.IsSite s) (hne : g ≠ f) :
    SitesKept g s.line (s.withSpecifier x) := by
  intro u hu hline
  obtain ⟨u', hmoved, hu', hline'⟩ := hx.moved hu hline
  refine ⟨u', hu', hline', ?_, leftmost_moved_iff hx hmoved⟩
  rcases hmoved.specifier_eq with ⟨rfl, _⟩ | ⟨_, hspec⟩
  · exact absurd (hu.form_eq hs) hne
  · exact hspec

/-- Exchanging a specifier changes nothing about another form. -/
theorem Site.Exchange.sameSites (hx : s.Exchange x) (hs : f.IsSite s) (hne : g ≠ f) :
    SameSites g s.line (s.withSpecifier x) where
  forth := hx.other hs hne
  back := hx.symm.other (Site.Moved.here.isSite hx hs) hne

end

end Import
end AmbientBundle
