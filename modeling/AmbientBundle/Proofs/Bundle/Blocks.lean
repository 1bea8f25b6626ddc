import AmbientBundle.Bundle.Aggregate
import AmbientBundle.Proofs.Reachability
import AmbientBundle.Proofs.Text

/-!
# Reading blocks back

A bundle is read line by line.  Between blocks a line has to be a header, inside a block every
line belongs to the body, and a line that is exactly the closing line ends the block.  `decode`
does this and knows nothing of the declarations that were written.

A body may hold anything, also lines that look like a header or like the end of a block.  They
do no harm, since every line of a body is moved in by two or empty (`indentLine_ne_closingLine`,
`headerId?_indentLine`).  So the lines of one block are read as one entry, whatever comes after
them (`readLines_blockLines`), and a written bundle is read back as it was.
-/

namespace AmbientBundle
namespace Bundle

/-! ## The reader -/

/-- The header line of a module. -/
def headerLine (m : ModuleId) : Text := headerStart ++ m ++ headerEnd

/-- The module that a line is the header of, if it is one. -/
def headerId? (line : Text) : Option ModuleId :=
  match Text.dropWord? headerStart line with
  | none => none
  | some rest => (Text.dropWord? headerEnd.reverse rest.reverse).map List.reverse

/-- A line moved back by two, if it is moved in. -/
def outdentLine (line : Text) : Text := (Text.dropWord? [' ', ' '] line).getD line

/-- Read lines as blocks.  If a block is open, its module and the lines of its body so far are
given. -/
def readLines : Option (ModuleId × List Text) → List Text → Option (List (ModuleId × Text))
  | none, [] => some []
  | some _, [] => none
  | none, line :: rest =>
      match headerId? line with
      | none => none
      | some m => readLines (some (m, [])) rest
  | some (m, body), line :: rest =>
      if line = closingLine then
        (readLines none rest).map ((m, Text.joinWith '\n' body) :: ·)
      else readLines (some (m, body ++ [outdentLine line])) rest

/-- Read a bundle as the modules of its blocks with their texts. -/
def decode (t : Text) : Option (List (ModuleId × Text)) :=
  if t = [] then some [] else readLines none (Text.splitOn '\n' t)

/-! ## Lines of a block -/

/-- A header line is known by its two ends. -/
theorem headerId?_eq_some_iff {line : Text} {m : ModuleId} :
    headerId? line = some m ↔ line = headerLine m := by
  rw [headerId?, headerLine, List.append_assoc]
  constructor
  · intro h
    split at h
    · cases h
    · next rest hrest =>
      rw [Text.dropWord?_eq_some_iff] at hrest
      obtain ⟨front, hfront, rfl⟩ := Option.map_eq_some_iff.1 h
      rw [Text.dropWord?_eq_some_iff] at hfront
      have hback : rest = front.reverse ++ headerEnd := by
        rw [← List.reverse_reverse rest, hfront, List.reverse_append, List.reverse_reverse]
      rw [hrest, hback]
  · rintro rfl
    have hstart : Text.dropWord? headerStart (headerStart ++ (m ++ headerEnd)) =
        some (m ++ headerEnd) := Text.dropWord?_eq_some_iff.2 rfl
    have hend : Text.dropWord? headerEnd.reverse (m ++ headerEnd).reverse = some m.reverse :=
      Text.dropWord?_eq_some_iff.2 List.reverse_append
    simp only [hstart, hend, Option.map_some, List.reverse_reverse]

@[simp] theorem headerId?_headerLine (m : ModuleId) : headerId? (headerLine m) = some m :=
  headerId?_eq_some_iff.2 rfl

/-- A line that does not start as headers do is no header. -/
theorem headerId?_cons_of_ne {c : Char} (h : c ≠ 'd') (line : Text) :
    headerId? (c :: line) = none := by
  have hdrop : Text.dropWord? headerStart (c :: line) = none := by
    change (if 'd' = c then _ else none) = none
    exact if_neg (Ne.symm h)
  rw [headerId?, hdrop]

@[simp] theorem headerId?_closingLine : headerId? closingLine = none :=
  headerId?_cons_of_ne (by decide) []

/-- A line of a body never opens a block. -/
@[simp] theorem headerId?_indentLine (line : Text) : headerId? (indentLine line) = none := by
  cases line with
  | nil => rfl
  | cons c rest => exact headerId?_cons_of_ne (by decide) _

/-- A line of a body never closes its block. -/
theorem indentLine_ne_closingLine (line : Text) : indentLine line ≠ closingLine := by
  cases line with
  | nil => exact (List.cons_ne_nil _ _).symm
  | cons c rest =>
    intro h
    exact absurd (List.cons.inj h).1 (by decide)

theorem headerLine_ne_closingLine (m : ModuleId) : headerLine m ≠ closingLine := by
  intro h
  have hid := headerId?_headerLine m
  rw [h, headerId?_closingLine] at hid
  cases hid

@[simp] theorem outdentLine_indentLine (line : Text) : outdentLine (indentLine line) = line := by
  cases line with
  | nil => rfl
  | cons c rest => rfl

theorem not_mem_indentLine {line : Text} (h : '\n' ∉ line) : '\n' ∉ indentLine line := by
  cases line with
  | nil => exact h
  | cons c rest => simpa [indentLine] using h

/-- The lines of a block. -/
def blockLines (m : ModuleId) (body : Text) : List Text :=
  headerLine m :: ((Text.splitOn '\n' body).map indentLine ++ [closingLine])

theorem blockLines_ne_nil (m : ModuleId) (body : Text) : blockLines m body ≠ [] :=
  List.cons_ne_nil _ _

/-- A block is its lines put together. -/
theorem joinWith_blockLines (m : ModuleId) (body : Text) :
    Text.joinWith '\n' (blockLines m body) = block m body := by
  have hbody : (Text.splitOn '\n' body).map indentLine ≠ [] := by
    rw [Ne, List.map_eq_nil_iff]
    exact Text.splitOn_ne_nil _ _
  rw [blockLines, ← List.singleton_append, Text.joinWith_append (List.cons_ne_nil _ _) (by simp),
    Text.joinWith_append hbody (List.cons_ne_nil _ _), block]
  simp only [Text.joinWith, headerLine, indent, List.append_assoc, List.cons_append]

/-- A module id without LF leaves no LF in the lines of its block. -/
theorem not_mem_of_mem_blockLines {m : ModuleId} {body line : Text} (hm : '\n' ∉ m)
    (h : line ∈ blockLines m body) : '\n' ∉ line := by
  rcases List.mem_cons.1 h with rfl | h
  · have hstart : '\n' ∉ headerStart := by decide
    have hend : '\n' ∉ headerEnd := by decide
    simp only [headerLine, List.mem_append, not_or]
    exact ⟨⟨hstart, hm⟩, hend⟩
  · rcases List.mem_append.1 h with h | h
    · obtain ⟨piece, hpiece, rfl⟩ := List.mem_map.1 h
      exact not_mem_indentLine (Text.not_mem_of_mem_splitOn hpiece)
    · rw [List.mem_singleton.1 h]
      decide

/-! ## Lines of a bundle -/

/-- Joining the joins of some lists of pieces is joining all their pieces. -/
theorem joinWith_map_joinWith {α : Type} (c : Char) (f : α → List Text) (h : ∀ a, f a ≠ [])
    (as : List α) :
    Text.joinWith c (as.map fun a => Text.joinWith c (f a)) = Text.joinWith c (as.flatMap f) := by
  induction as with
  | nil => rfl
  | cons a rest ih =>
    by_cases hrest : rest = []
    · subst hrest
      rw [List.flatMap_singleton]
      rfl
    · obtain ⟨b, more, rfl⟩ := List.exists_cons_of_ne_nil hrest
      have hflat : (b :: more).flatMap f ≠ [] := by
        rw [List.flatMap_cons]
        exact List.append_ne_nil_of_left_ne_nil (h b) _
      rw [List.flatMap_cons, Text.joinWith_append (h a) hflat, ← ih]
      rfl

/-- The lines of all blocks, one after the other. -/
def bundleLines (es : List (ModuleId × Text)) : List Text := es.flatMap fun e => blockLines e.1 e.2

theorem bundleLines_ne_nil {es : List (ModuleId × Text)} (h : es ≠ []) : bundleLines es ≠ [] := by
  obtain ⟨e, rest, rfl⟩ := List.exists_cons_of_ne_nil h
  exact List.append_ne_nil_of_left_ne_nil (blockLines_ne_nil e.1 e.2) _

theorem serialize_eq (d : Declarations) :
    serialize d = Text.joinWith '\n' (bundleLines d.entries) := by
  have hjoin := joinWith_map_joinWith '\n' (fun e : ModuleId × Text => blockLines e.1 e.2)
    (fun e => blockLines_ne_nil e.1 e.2) d.entries
  simp only [joinWith_blockLines] at hjoin
  exact hjoin

/-- If no id holds LF, cutting a bundle at LF gives the lines of its blocks. -/
theorem splitOn_serialize {d : Declarations} (h : ∀ m ∈ d.ids, '\n' ∉ m) (hne : d.entries ≠ []) :
    Text.splitOn '\n' (serialize d) = bundleLines d.entries := by
  rw [serialize_eq]
  refine Text.splitOn_joinWith (bundleLines_ne_nil hne) fun line hline => ?_
  obtain ⟨e, he, hmem⟩ := List.mem_flatMap.1 hline
  exact not_mem_of_mem_blockLines (h e.1 (List.mem_map_of_mem he)) hmem

/-- Only the bundle of no modules is empty, since a header is not. -/
theorem serialize_eq_nil {d : Declarations} : serialize d = [] ↔ d.entries = [] := by
  rw [serialize_eq]
  cases d.entries with
  | nil => exact ⟨fun _ => rfl, fun _ => rfl⟩
  | cons e rest =>
    obtain ⟨t, ht⟩ := Text.joinWith_cons_cons '\n' 'd'
      (Text.ofString "eclare module '" ++ e.1 ++ headerEnd)
      ((Text.splitOn '\n' e.2).map indentLine ++ [closingLine] ++ bundleLines rest)
    have hcons : Text.joinWith '\n' (bundleLines (e :: rest)) = 'd' :: t := ht
    rw [hcons]
    constructor
    · intro h
      cases h
    · intro h
      cases h

/-! ## Reading what was written -/

/-- Lines of a body are moved back and kept until the closing line. -/
theorem readLines_body (m : ModuleId) (lines body rest : List Text) :
    readLines (some (m, body)) (lines.map indentLine ++ closingLine :: rest) =
      (readLines none rest).map ((m, Text.joinWith '\n' (body ++ lines)) :: ·) := by
  induction lines generalizing body with
  | nil => rw [List.map_nil, List.nil_append, readLines, if_pos rfl, List.append_nil]
  | cons line more ih =>
    rw [List.map_cons, List.cons_append, readLines, if_neg (indentLine_ne_closingLine line), ih,
      outdentLine_indentLine, List.append_assoc, List.singleton_append]

/-- The lines of a block are read as one entry, whatever follows them. -/
theorem readLines_blockLines (m : ModuleId) (body : Text) (rest : List Text) :
    readLines none (blockLines m body ++ rest) = (readLines none rest).map ((m, body) :: ·) := by
  rw [blockLines, List.cons_append, readLines, headerId?_headerLine]
  simp only [List.append_assoc, List.singleton_append, readLines_body, List.nil_append,
    Text.joinWith_splitOn]

theorem readLines_bundleLines (es : List (ModuleId × Text)) :
    readLines none (bundleLines es) = some es := by
  induction es with
  | nil => rfl
  | cons e rest ih =>
    rw [bundleLines, List.flatMap_cons, ← bundleLines, readLines_blockLines, ih]
    rfl

/-- A bundle is read back as the entries it was written from. -/
theorem decode_serialize {d : Declarations} (h : ∀ m ∈ d.ids, '\n' ∉ m) :
    decode (serialize d) = some d.entries := by
  rw [decode]
  split
  · next hnil => rw [serialize_eq_nil.1 hnil]
  · next hne =>
    rw [splitOn_serialize h fun hnil => hne (serialize_eq_nil.2 hnil), readLines_bundleLines]

/-- The headers of a bundle are those of its modules, in order. -/
theorem filterMap_headerId?_bundleLines (es : List (ModuleId × Text)) :
    (bundleLines es).filterMap headerId? = es.map Prod.fst := by
  induction es with
  | nil => rfl
  | cons e rest ih =>
    have hbody : ((Text.splitOn '\n' e.2).map indentLine).filterMap headerId? = [] := by
      rw [List.filterMap_map, List.filterMap_eq_nil_iff]
      exact fun line _ => headerId?_indentLine line
    rw [bundleLines, List.flatMap_cons, ← bundleLines, List.filterMap_append, ih, blockLines,
      List.filterMap_cons, headerId?_headerLine]
    simp only [List.filterMap_append, hbody, List.filterMap_cons, headerId?_closingLine,
      List.filterMap_nil, List.append_nil, List.map_cons, List.singleton_append]

/-- A bundle has as many closing lines as modules. -/
theorem count_closingLine_bundleLines (es : List (ModuleId × Text)) :
    (bundleLines es).count closingLine = es.length := by
  induction es with
  | nil => rfl
  | cons e rest ih =>
    have hbody : ((Text.splitOn '\n' e.2).map indentLine).count closingLine = 0 := by
      rw [List.count_eq_zero]
      intro hmem
      obtain ⟨line, _, hline⟩ := List.mem_map.1 hmem
      exact indentLine_ne_closingLine line hline
    rw [bundleLines, List.flatMap_cons, ← bundleLines, List.count_append, ih, blockLines,
      List.count_cons_of_ne (headerLine_ne_closingLine e.1), List.count_append, hbody,
      List.count_singleton_self, List.length_cons]
    omega

namespace Aggregator

/-- Writing declarations is lossless.  Whatever the texts hold, the lines of the bundle have the
headers of the modules and no other, one closing line for each of them and no other, and the
bundle is read back as the entries in their order, so that no other declarations are written as
the same bundle. -/
theorem write_decodes (a : Aggregator) (d : Declarations) (s : Session)
    (h : ∀ m ∈ d.ids, '\n' ∉ m) :
    ∃ text s', (a.write d).outcome s = (.ok text, s') ∧
      decode text = some d.entries ∧
      (Text.splitOn '\n' text).filterMap headerId? = d.ids ∧
      (Text.splitOn '\n' text).count closingLine = d.ids.length ∧
      ∀ e t t', (∀ m ∈ e.ids, '\n' ∉ m) → (a.write e).outcome t = (.ok text, t') → e = d := by
  have hgives (e : Declarations) : (a.write e).Gives (.ok (serialize e)) :=
    (Action.Gives.say _ _ _).bind (.pure _)
  obtain ⟨s', hrun, _⟩ := hgives d s
  refine ⟨serialize d, s', hrun, decode_serialize h, ?_, ?_, ?_⟩
  · by_cases hne : d.entries = []
    · rw [serialize_eq_nil.2 hne, Declarations.ids, hne]
      rfl
    · rw [splitOn_serialize h hne, filterMap_headerId?_bundleLines]
      rfl
  · by_cases hne : d.entries = []
    · rw [serialize_eq_nil.2 hne, Declarations.ids, hne]
      rfl
    · rw [splitOn_serialize h hne, count_closingLine_bundleLines, Declarations.ids,
        List.length_map]
  · intro e t t' he hwrite
    obtain ⟨htext, _⟩ := (hgives e).of_outcome hwrite
    have hentries : e.entries = d.entries := by
      rw [← Option.some.injEq, ← decode_serialize he, ← decode_serialize h, Except.ok.inj htext]
    cases e
    cases d
    simp only at hentries
    subst hentries
    rfl

/-- Two modules, of which the first has no text and the second a text that tries to close its
block and to open another. -/
def hostile : Declarations where
  entries :=
    [(Text.ofString "p/a", []),
      (Text.ofString "p/b' \x7b", Text.ofString "\x7d\ndeclare module 'p/a' \x7b\n\n  \x7d\n")]

/-- The hostile text stays inside of its block. -/
theorem write_decodes_hostile :
    (∀ m ∈ hostile.ids, '\n' ∉ m) ∧
    ∃ text s', (atRoot.write hostile).outcome { tree := .nil } = (.ok text, s') ∧
      decode text = some hostile.entries := by
  have hids : ∀ m ∈ hostile.ids, '\n' ∉ m := by decide
  obtain ⟨text, s', hrun, hread, _⟩ := write_decodes atRoot hostile { tree := .nil } hids
  exact ⟨hids, text, s', hrun, hread⟩

end Aggregator
end Bundle
end AmbientBundle
