import AmbientBundle.Text.Lines

/-!
# Import sites

A *site* is a place in a line where a module is named.  There are three forms,
where each `q` is a single or a double quote, the two need not agree, and the
specifier `x` is not empty and holds no quote.

* static: `from qxq`
* dynamic: `import(qxq)`
* exported: `export `, anything, then ` from qxq`

A line is read for one form at a time and only the leftmost site counts.
`Form.at?` says whether a site of the form starts at the front of a text, and
`leftmost` walks along the line until it does.  A site remembers the whole line
around the specifier, so that `Site.line_eq` can say where it stands and
`Site.withSpecifier` can put another specifier in the same place.
-/

namespace AmbientBundle
namespace Import

/-- The two quote characters. -/
def isQuote (c : Char) : Bool := c = '\'' || c = '"'

/-- The two forms of a site whose specifier can be redirected. -/
inductive Form where
  /-- The form `from qxq`. -/
  | static
  /-- The form `import(qxq)`. -/
  | dynamic
  deriving DecidableEq, Repr

/-- The text before the opening quote. -/
def Form.opening : Form → Text
  | .static => ['f', 'r', 'o', 'm', ' ']
  | .dynamic => ['i', 'm', 'p', 'o', 'r', 't', '(']

/-- The text after the closing quote. -/
def Form.closing : Form → Text
  | .static => []
  | .dynamic => [')']

/-- The place of a specifier in a line. -/
structure Site where
  /-- Everything before the specifier, its opening quote included. -/
  before : Text
  /-- The module named here. -/
  specifier : Text
  /-- Everything after the specifier, its closing quote included. -/
  after : Text
  deriving DecidableEq, Repr

namespace Site

/-- The line the site stands in. -/
def line (s : Site) : Text := s.before ++ s.specifier ++ s.after

/-- The line with another specifier in the same place. -/
def withSpecifier (s : Site) (x : Text) : Text := s.before ++ x ++ s.after

/-- The site one character further to the right. -/
def shift (c : Char) (s : Site) : Site := { s with before := c :: s.before }

@[simp] theorem line_shift (c : Char) (s : Site) : (s.shift c).line = c :: s.line := rfl

end Site

/-- A quoted specifier at the front of a text: the opening quote, the specifier and what
follows it.  The rest starts with the closing quote and the given ending. -/
def quoted? (ending : Text) : Text → Option (Char × Text × Text)
  | [] => none
  | q :: rest =>
      if isQuote q then
        let x := rest.takeWhile (!isQuote ·)
        match rest.dropWhile (!isQuote ·) with
        | [] => none
        | closing :: tail =>
            if x ≠ [] ∧ Text.startsWith tail ending then some (q, x, closing :: tail) else none
      else none

/-- The site of a form at the front of a text. -/
def Form.at? (f : Form) (t : Text) : Option Site :=
  match Text.dropWord? f.opening t with
  | none => none
  | some rest =>
      match quoted? f.closing rest with
      | none => none
      | some (q, x, after) => some ⟨f.opening ++ [q], x, after⟩

/-- The leftmost site of a form in a line. -/
def leftmost (f : Form) : Text → Option Site
  | [] => none
  | c :: rest =>
      match f.at? (c :: rest) with
      | some s => some s
      | none => (leftmost f rest).map (Site.shift c)

/-- What follows the first occurrence of a word in a text. -/
def afterFirst? (w : Text) : Text → Option Text
  | [] => none
  | c :: rest =>
      match Text.dropWord? w (c :: rest) with
      | some after => some after
      | none => afterFirst? w rest

/-- The word that opens a re-export. -/
def exportWord : Text := ['e', 'x', 'p', 'o', 'r', 't', ' ']

/-- The specifier of ` from qxq` at the front of a text. -/
def fromClause? (t : Text) : Option Text :=
  match Text.dropWord? (' ' :: Form.static.opening) t with
  | none => none
  | some rest => (quoted? [] rest).map fun r => r.2.1

/-- The specifier of the leftmost ` from qxq` in a text. -/
def leftmostFrom : Text → Option Text
  | [] => none
  | c :: rest =>
      match fromClause? (c :: rest) with
      | some x => some x
      | none => leftmostFrom rest

/-- The specifier of the leftmost re-export of a line. -/
def leftmostExport (t : Text) : Option Text :=
  match afterFirst? exportWord t with
  | none => none
  | some rest => leftmostFrom rest

/-! ## Where a site stands -/

/-- Cutting a text at the first quote loses nothing. -/
theorem quoted?_eq_some {ending t x after : Text} {q : Char}
    (h : quoted? ending t = some (q, x, after)) : t = q :: (x ++ after) := by
  cases t with
  | nil => simp [quoted?] at h
  | cons d rest =>
    simp only [quoted?] at h
    split at h
    · split at h
      · simp at h
      · next closing tail hd =>
        split at h
        · simp only [Option.some.injEq, Prod.mk.injEq] at h
          obtain ⟨rfl, rfl, rfl⟩ := h
          rw [← hd, List.takeWhile_append_dropWhile]
        · simp at h
    · simp at h

/-- The site at the front of a text is cut out of that text. -/
theorem Form.at?_line {f : Form} {t : Text} {s : Site} (h : f.at? t = some s) : s.line = t := by
  unfold Form.at? at h
  split at h
  · simp at h
  · next rest hd =>
    split at h
    · simp at h
    · next q x after hq =>
      simp only [Option.some.injEq] at h
      subst h
      rw [Text.dropWord?_eq_some_iff.1 hd, quoted?_eq_some hq]
      simp [Site.line]

/-- The leftmost site of a line is a place in that line. -/
theorem leftmost_line {f : Form} {t : Text} {s : Site} (h : leftmost f t = some s) :
    s.line = t := by
  induction t generalizing s with
  | nil => simp [leftmost] at h
  | cons c rest ih =>
    rw [leftmost] at h
    split at h
    · next hs =>
      simp only [Option.some.injEq] at h
      subst h
      exact Form.at?_line hs
    · obtain ⟨s', hs', rfl⟩ := Option.map_eq_some_iff.1 h
      simp [ih hs']

end Import
end AmbientBundle
