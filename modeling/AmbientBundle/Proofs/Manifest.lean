import AmbientBundle.Proofs.Effects
import AmbientBundle.Proofs.Generate.Ground
import AmbientBundle.Proofs.Json
import AmbientBundle.Proofs.Utf8
import Mathlib.Data.List.DropRight

/-!
# What reading a manifest ends with

The reading of a manifest is meant to end in one of two ways: with the manifest, or with a fault of
the manifest that says why there is none.  `Answered` says that it does.

It does not for every content of the file.  Bytes that are no text stop the reading with another
fault, and so do collections that lie in one another too deep and numbers that are too long
(`Stops`).  For all other content there is an answer (`ofContent_cases`), and the manifest in it has
the name that the object in the file gives, without the white space around it (`Names`).
`read_answers_iff` says this for the whole of reading, where a path that no file system can be asked
for is one more way to stop.
-/

namespace AmbientBundle

/-! ## White space around a text -/

namespace Text

/-- Whether a text has no white space at its ends. -/
def Trimmed (t : Text) : Prop :=
  ∀ h : t ≠ [], isBlank (t.head h) = false ∧ isBlank (t.getLast h) = false

/-- Whether a text is another one with white space around it. -/
def Pads (u t : Text) : Prop :=
  ∃ before after, t = before ++ u ++ after ∧ (∀ c ∈ before, isBlank c = true) ∧
    ∀ c ∈ after, isBlank c = true

theorem stripEnd_eq (t : Text) : stripEnd t = t.rdropWhile isBlank := rfl

theorem pads_strip (t : Text) : Pads (strip t) t :=
  ⟨t.takeWhile isBlank, (stripStart t).rtakeWhile isBlank,
    by rw [List.append_assoc, strip, stripEnd_eq, List.rdropWhile_append_rtakeWhile, stripStart,
      List.takeWhile_append_dropWhile],
    fun _ => List.mem_takeWhile_imp, fun _ => List.mem_rtakeWhile_imp⟩

theorem trimmed_strip (t : Text) : Trimmed (strip t) := by
  intro hne
  have hpre : strip t <+: stripStart t := List.rdropWhile_prefix isBlank _
  constructor
  · rw [hpre.head hne]
    exact List.head_dropWhile_not isBlank _
  · exact Bool.eq_false_iff.2 (List.rdropWhile_last_not isBlank (stripStart t) hne)

/-- What is left of a text without the white space around it is trimmed, and nothing else is. -/
theorem strip_eq_iff {t u : Text} : strip t = u ↔ Pads u t ∧ Trimmed u := by
  constructor
  · rintro rfl
    exact ⟨pads_strip t, trimmed_strip t⟩
  · rintro ⟨⟨before, after, rfl, hbefore, hafter⟩, htrimmed⟩
    have hend : stripEnd (u ++ after) = u := by
      rw [stripEnd, List.reverse_append, List.dropWhile_append_of_pos fun c hc =>
        hafter c (List.mem_reverse.1 hc)]
      refine List.rdropWhile_eq_self_iff.2 fun hne => ?_
      rw [(htrimmed hne).2]
      exact Bool.false_ne_true
    rw [strip, stripStart, List.append_assoc, List.dropWhile_append_of_pos hbefore]
    cases u with
    | nil =>
      rw [List.nil_append, List.dropWhile_eq_nil_iff.2 hafter]
      rfl
    | cons c u =>
      have hc : ¬ isBlank c = true := by
        rw [show isBlank c = false from (htrimmed (List.cons_ne_nil c u)).1]
        exact Bool.false_ne_true
      rw [List.cons_append, List.dropWhile_cons_of_neg hc]
      exact hend

end Text

/-! ## The content of a manifest -/

namespace Manifest

variable {halves : Halves}

/-- Whether a name is the one that the object in a file gives, without the white space around it. -/
def Names (halves : Halves) (content : Bytes) (name : Text) : Prop :=
  ∃ t fields declared, Utf8.encode t = content ∧ Json.read halves (Text.asRead t) = .ok (.map fields) ∧
    field? fields (Text.ofString "name") = some (.text declared) ∧ Text.Pads name declared ∧
    Text.Trimmed name

/-- The fault with which the reading of some bytes stops, if it does: they are no text, or the text
goes beyond what is read. -/
inductive Stops (halves : Halves) (content : Bytes) : Fault → Prop where
  /-- No text is written as these bytes. -/
  | noText (h : ¬ ∃ t, Utf8.encode t = content) : Stops halves content .undecodable
  /-- A number is too long. -/
  | tooLong (t : Text) (ht : Utf8.encode t = content)
      (h : Json.read halves (Text.asRead t) = .error .tooLong) : Stops halves content (.misuse .range)
  /-- Collections lie in one another too deep. -/
  | tooDeep (t : Text) (ht : Utf8.encode t = content)
      (h : Json.read halves (Text.asRead t) = .error .tooDeep) : Stops halves content (.misuse .depth)

/-- Whether there is a manifest, or a fault of the manifest in its place. -/
def Answered (r : Except Fault Manifest) : Prop :=
  (∃ m, r = .ok m) ∨ ∃ cause, r = .error (.manifest cause)

/-- What comes of the content of a file. -/
def ofContent (halves : Halves) (path : Path) (content : Bytes) : Except Fault Manifest :=
  (parse halves path content).bind fun value => (ofValue path value).mapError .manifest

theorem answered_mapError (r : Except ManifestFault Manifest) :
    Answered (r.mapError .manifest) := by
  cases r with
  | ok m => exact Or.inl ⟨m, rfl⟩
  | error cause => exact Or.inr ⟨cause, rfl⟩

theorem Stops.not_answered {content : Bytes} {f : Fault} (h : Stops halves content f) :
    ¬ Answered (.error f) := by
  rintro (⟨m, hm⟩ | ⟨cause, hcause⟩)
  · cases hm
  · cases h <;> cases hcause

section

variable {path : Path} {content : Bytes} {name t : Text} {f : Fault}

theorem stops_encode_iff :
    Stops halves (Utf8.encode t) f ↔
      (Json.read halves (Text.asRead t) = .error .tooLong ∧ f = .misuse .range) ∨
      (Json.read halves (Text.asRead t) = .error .tooDeep ∧ f = .misuse .depth) := by
  constructor
  · intro h
    cases h with
    | noText h => exact absurd ⟨t, rfl⟩ h
    | tooLong u hu h => exact Or.inl ⟨Utf8.encode_injective hu ▸ h, rfl⟩
    | tooDeep u hu h => exact Or.inr ⟨Utf8.encode_injective hu ▸ h, rfl⟩
  · rintro (⟨h, rfl⟩ | ⟨h, rfl⟩)
    · exact .tooLong t rfl h
    · exact .tooDeep t rfl h

theorem names_encode_iff :
    Names halves (Utf8.encode t) name ↔
      ∃ fields declared, Json.read halves (Text.asRead t) = .ok (.map fields) ∧
      field? fields (Text.ofString "name") = some (.text declared) ∧
      Text.strip declared = name := by
  simp only [Text.strip_eq_iff]
  constructor
  · rintro ⟨u, fields, declared, hu, hread⟩
    rw [Utf8.encode_injective hu] at hread
    exact ⟨fields, declared, hread⟩
  · rintro ⟨fields, declared, hread⟩
    exact ⟨t, fields, declared, rfl, hread⟩

/-- Reading does not stop for a text that is shallow and has few digits in a row. -/
theorem not_stops_encode (hshallow : Json.isShallow (Text.asRead t) = true)
    (hdigits : ∀ ds, ds <:+: Text.asRead t → (∀ c ∈ ds, Number.isDigit c = true) →
      ds.length ≤ Number.digitLimit) : ¬ Stops halves (Utf8.encode t) f := by
  rw [stops_encode_iff]
  rintro (⟨hlong, -⟩ | ⟨hdeep, -⟩)
  · obtain ⟨ds, hinfix, hall, hlength⟩ := Json.exists_digits_of_read hlong
    exact absurd (hdigits ds hinfix hall) (Nat.not_le_of_lt hlength)
  · rw [Json.not_isShallow_of_read hdeep] at hshallow
    cases hshallow

theorem ofContent_encode (halves : Halves) (path : Path) (t : Text) :
    ofContent halves path (Utf8.encode t) =
      match Json.read halves (Text.asRead t) with
      | .error .malformed => .error (.manifest (.malformed path))
      | .error .tooLong => .error (.misuse .range)
      | .error .tooDeep => .error (.misuse .depth)
      | .ok value => (ofValue path value).mapError .manifest := by
  rw [ofContent, parse, Utf8.decode_encode]
  dsimp only
  cases Json.read halves (Text.asRead t) with
  | ok value => rfl
  | error e => cases e <;> rfl

theorem ofContent_of_not_text (h : ¬ ∃ t, Utf8.encode t = content) :
    ofContent halves path content = .error .undecodable := by
  have hdecode : Utf8.decode content = none :=
    Option.eq_none_iff_forall_ne_some.2 fun t ht => h ⟨t, Utf8.decode_eq_some_iff.1 ht⟩
  rw [ofContent, parse, hdecode]
  rfl

/-- Content gives an answer, or reading stops with a fault that is none. -/
theorem ofContent_cases (halves : Halves) (path : Path) (content : Bytes) :
    (Answered (ofContent halves path content) ∧ ∀ f, ¬ Stops halves content f) ∨
      ∃ f, Stops halves content f ∧ ofContent halves path content = .error f := by
  by_cases htext : ∃ t, Utf8.encode t = content
  · obtain ⟨t, rfl⟩ := htext
    simp only [ofContent_encode, stops_encode_iff]
    cases Json.read halves (Text.asRead t) with
    | ok value => exact Or.inl ⟨answered_mapError _, fun f h => by simp at h⟩
    | error e =>
      cases e with
      | malformed => exact Or.inl ⟨Or.inr ⟨_, rfl⟩, fun f h => by simp at h⟩
      | tooLong => exact Or.inr ⟨_, Or.inl ⟨rfl, rfl⟩, rfl⟩
      | tooDeep => exact Or.inr ⟨_, Or.inr ⟨rfl, rfl⟩, rfl⟩
  · exact Or.inr ⟨_, .noText htext, ofContent_of_not_text htext⟩

theorem nameOf?_eq_some_iff {o : Option Value} :
    nameOf? o = some name ↔
      name ≠ [] ∧ ∃ declared, o = some (.text declared) ∧ Text.strip declared = name := by
  constructor
  · intro h
    unfold nameOf? at h
    split at h
    · next declared =>
      split at h
      · cases h
      · next hne =>
        cases h
        exact ⟨hne, declared, rfl, rfl⟩
    · cases h
  · rintro ⟨hne, declared, rfl, rfl⟩
    rw [nameOf?, if_neg hne]

/-- A value stands for a manifest exactly if it is an object with a name. -/
theorem ofValue_named_iff {value : Value} :
    (∃ m, ofValue path value = .ok m ∧ m.name = name) ↔
      ∃ fields, value = .map fields ∧
        nameOf? (field? fields (Text.ofString "name")) = some name := by
  cases value with
  | map fields =>
    rw [ofValue]
    cases hname : nameOf? (field? fields (Text.ofString "name")) with
    | none => simp [hname]
    | some name' => simp [hname]
  | _ => simp [ofValue]

theorem mapError_eq_ok_iff {ε ε' α : Type} {f : ε → ε'} {r : Except ε α} {a : α} :
    r.mapError f = .ok a ↔ r = .ok a := by
  cases r with
  | ok b => rw [Except.mapError, Except.ok.injEq, Except.ok.injEq]
  | error e => exact ⟨fun h => (nomatch h), fun h => (nomatch h)⟩

theorem ofContent_eq_ok_iff {m : Manifest} :
    ofContent halves path content = .ok m ↔
      ∃ value, parse halves path content = .ok value ∧ ofValue path value = .ok m := by
  rw [ofContent]
  cases parse halves path content with
  | error e => exact iff_of_false (fun h => nomatch h) fun ⟨_, h, _⟩ => nomatch h
  | ok value => simp only [Except.bind, mapError_eq_ok_iff, Except.ok.injEq, exists_eq_left']

/-- The content of a file gives a manifest exactly if it gives a name that is not blank. -/
theorem ofContent_named_iff :
    (∃ m, ofContent halves path content = .ok m ∧ m.name = name) ↔
      name ≠ [] ∧ Names halves content name := by
  by_cases htext : ∃ t, Utf8.encode t = content
  · obtain ⟨t, rfl⟩ := htext
    rw [names_encode_iff, ofContent_encode]
    cases Json.read halves (Text.asRead t) with
    | error e =>
      refine iff_of_false (fun ⟨m, hm, _⟩ => ?_) fun ⟨_, fields, declared, h, _⟩ => nomatch h
      cases e <;> cases hm
    | ok value =>
      simp only [mapError_eq_ok_iff, ofValue_named_iff, nameOf?_eq_some_iff, Except.ok.injEq]
      constructor
      · rintro ⟨fields, rfl, hne, declared, hfield, hstrip⟩
        exact ⟨hne, fields, declared, rfl, hfield, hstrip⟩
      · rintro ⟨hne, fields, declared, rfl, hfield, hstrip⟩
        exact ⟨fields, rfl, hne, declared, hfield, hstrip⟩
  · rw [ofContent_of_not_text htext]
    exact iff_of_false (fun ⟨m, hm, _⟩ => nomatch hm)
      fun ⟨_, t, _, _, ht, _⟩ => htext ⟨t, ht⟩

end

/-! ## Reading a manifest -/

/-- What is found in the place of the manifest when it is opened. -/
def found (v : Voice) (root : Path) (s : Session) : Except OsFault Bytes :=
  let s := ((v.verbose "Loading package.json...").outcome s).2
  s.tree.readFile (s.spot v.host) (root.child fileName)

theorem fault?_manifestPath (halves : Halves) (root : Path) :
    (root.child fileName).fault? halves = root.fault? halves :=
  Path.fault?_child_eq (Text.fault?_of_isPlain (by decide))

/-- It is found in a tree that only reports have changed. -/
theorem exists_found (v : Voice) (root : Path) (s : Session) :
    ∃ t, s.Reported t ∧
      found v root s = t.tree.readFile (t.spot v.host) (root.child fileName) := by
  obtain ⟨t, ht, hst⟩ := v.outcome_say Level.verbose "Loading package.json..." s
  exact ⟨t, hst, by rw [found, Voice.verbose, ht]⟩

/-- Without a log file it is what the tree holds. -/
theorem found_of_no_log {v : Voice} {root : Path} {s : Session} (h : s.journal.files = []) :
    found v root s = s.tree.readFile (s.spot v.host) (root.child fileName) := by
  obtain ⟨t, hst, hfound⟩ := exists_found v root s
  rw [hfound, hst.spot, hst.tree_eq h]

/-- What comes of what is found. -/
def verdict (halves : Halves) (path : Path) : Except OsFault Bytes → Except Fault Manifest
  | .error e => .error (.manifest (.refused path e))
  | .ok content => ofContent halves path content

section

variable {path : Path} {r : Except OsFault Bytes}

theorem verdict_named_iff {name : Text} :
    (∃ m, verdict halves path r = .ok m ∧ m.name = name) ↔
      name ≠ [] ∧ ∃ content, r = .ok content ∧ Names halves content name := by
  cases r with
  | error e => exact iff_of_false (fun ⟨m, hm, _⟩ => nomatch hm) fun ⟨_, _, h, _⟩ => nomatch h
  | ok content => simp only [verdict, ofContent_named_iff, Except.ok.injEq, exists_eq_left']

/-- There is an answer, or content with which reading stops. -/
theorem verdict_cases (halves : Halves) (path : Path) (r : Except OsFault Bytes) :
    (Answered (verdict halves path r) ∧ ∀ content f, r = .ok content → ¬ Stops halves content f) ∨
      ∃ content f, r = .ok content ∧ Stops halves content f ∧ verdict halves path r = .error f := by
  cases r with
  | error e => exact Or.inl ⟨Or.inr ⟨_, rfl⟩, fun content f h => nomatch h⟩
  | ok content =>
    rcases ofContent_cases halves path content with ⟨hanswered, hnone⟩ | ⟨f, hstops, hresult⟩
    · refine Or.inl ⟨hanswered, fun content' f h => ?_⟩
      cases h
      exact hnone f
    · exact Or.inr ⟨content, f, rfl, hstops, hresult⟩

end

/-- Reading gives what comes of what is found, unless the path is none at all, and leaves nothing
but reports. -/
theorem outcome_read (v : Voice) (root : Path) (s : Session) :
    ∃ s', s.Reported s' ∧ (read v root).outcome s =
      (match root.fault? v.host.halves with
        | some f => .error f
        | none => verdict v.host.halves (root.child fileName) (found v root s), s') := by
  obtain ⟨t, ht, hst⟩ := v.outcome_say Level.verbose "Loading package.json..." s
  have hfound : found v root s = t.tree.readFile (t.spot v.host) (root.child fileName) := by
    rw [found, Voice.verbose, ht]
  have hgives {act : Action Manifest} {r : Except Fault Manifest} (h : act.Gives r) :
      ∃ s', s.Reported s' ∧ act.outcome t = (r, s') := by
    obtain ⟨s', hrun, hrep⟩ := h t
    exact ⟨s', hst.trans hrep, hrun⟩
  rw [read, Voice.verbose, Action.outcome_bind_ok ht, Action.checkPath, fault?_manifestPath, hfound]
  cases root.fault? v.host.halves with
  | some f => exact ⟨t, hst, rfl⟩
  | none =>
    dsimp only
    rw [Action.outcome_bind_ok (Action.outcome_pure _ _),
      Action.outcome_bind_ok (Action.outcome_get _)]
    cases t.tree.readFile (t.spot v.host) (root.child fileName) with
    | error e => exact hgives (gives_refuse v _ _ _)
    | ok content =>
      dsimp only
      rw [verdict, ofContent]
      cases parse v.host.halves (root.child fileName) content with
      | error f =>
        cases f with
        | manifest cause => exact hgives (gives_refuse v _ _ _)
        | _ => exact hgives (.throw _)
      | ok value =>
        dsimp only [Except.bind]
        cases ofValue (root.child fileName) value with
        | error cause => exact hgives (.throw _)
        | ok m => exact hgives (.bind (.say _ _ _) (.pure m))

theorem result_read (v : Voice) (root : Path) (s : Session) :
    ((read v root).outcome s).1 =
      match root.fault? v.host.halves with
      | some f => .error f
      | none => verdict v.host.halves (root.child fileName) (found v root s) := by
  obtain ⟨s', -, hrun⟩ := outcome_read v root s
  rw [hrun]

/-- Reading gives a manifest exactly if the object in the file gives a name that is not blank, and
then the manifest has this name, without the white space around it.  Reading gives a manifest or a
fault of the manifest exactly if the path can be asked for and the file, if one can be opened, holds
nothing that reading stops with; any other fault comes from the path or from that content.  A text
that is shallow and has few digits in a row does not stop reading. -/
theorem read_answers_iff (v : Voice) (root : Path) (s : Session) :
    (∀ name, (∃ m, ((read v root).outcome s).1 = .ok m ∧ m.name = name) ↔
      root.fault? v.host.halves = none ∧ name ≠ [] ∧
        ∃ content, found v root s = .ok content ∧ Names v.host.halves content name) ∧
    (Answered ((read v root).outcome s).1 ↔ root.fault? v.host.halves = none ∧
      ∀ content f, found v root s = .ok content → ¬ Stops v.host.halves content f) ∧
    (∀ f, ((read v root).outcome s).1 = .error f → (∃ cause, f = .manifest cause) ∨
      root.fault? v.host.halves = some f ∨
        ∃ content, found v root s = .ok content ∧ Stops v.host.halves content f) ∧
    ∀ t f, Json.isShallow (Text.asRead t) = true →
      (∀ ds, ds <:+: Text.asRead t → (∀ c ∈ ds, Number.isDigit c = true) →
        ds.length ≤ Number.digitLimit) → ¬ Stops v.host.halves (Utf8.encode t) f := by
  rw [result_read]
  cases hfault : root.fault? v.host.halves with
  | some f =>
    refine ⟨fun name => ?_, ?_, fun f' hf => ?_, fun t f => not_stops_encode⟩
    · exact iff_of_false (fun ⟨m, hm, _⟩ => nomatch hm) fun h => nomatch h.1
    · refine iff_of_false ?_ fun h => nomatch h.1
      rintro (⟨m, hm⟩ | ⟨cause, hcause⟩)
      · cases hm
      · obtain rfl := Except.error.inj hcause
        exact absurd hfault Path.fault?_ne_manifest
    · exact Or.inr (Or.inl (congrArg some (Except.error.inj hf)))
  | none =>
    have hcases := verdict_cases v.host.halves (root.child fileName) (found v root s)
    refine ⟨fun name => ?_, ?_, fun f hf => ?_, fun t f => not_stops_encode⟩
    · rw [verdict_named_iff]
      exact ⟨fun h => ⟨rfl, h⟩, And.right⟩
    · rcases hcases with ⟨hanswered, hnone⟩ | ⟨content, f, hfound, hstops, hresult⟩
      · exact iff_of_true hanswered ⟨rfl, hnone⟩
      · dsimp only
        rw [hresult]
        exact iff_of_false hstops.not_answered fun h => h.2 content f hfound hstops
    · dsimp only at hf
      rcases hcases with ⟨hanswered, -⟩ | ⟨content, f', hfound, hstops, hresult⟩
      · rw [hf] at hanswered
        rcases hanswered with ⟨m, hm⟩ | ⟨cause, hcause⟩
        · cases hm
        · exact Or.inl ⟨cause, Except.error.inj hcause⟩
      · rw [hf] at hresult
        cases hresult
        exact Or.inr (Or.inr ⟨content, hfound, hstops⟩)

/-! ## Manifests with and without text -/

/-- A package `/pkg` whose manifest holds some bytes. -/
def packageOf (content : Bytes) : Session :=
  { tree := .dir "pkg".toList (.file fileName content .data .nil) .nil }

/-- The directory of the package. -/
def sampleRoot : Path := ⟨.root, ["pkg".toList]⟩

/-- The voice that reads its manifest. -/
def sampleVoice : Voice := .named Sample.host "package"

theorem found_packageOf (content : Bytes) :
    found sampleVoice sampleRoot (packageOf content) = .ok content := by
  rw [found_of_no_log rfl]
  exact (Folder.readFile_eq_ok_iff (by decide)).2 ⟨⟨by decide, by decide⟩, .data, rfl⟩

/-- The text that an object gives for the name. -/
def declared? : Value → Option Text
  | .map fields => (field? fields (Text.ofString "name")).bind Value.text?
  | _ => none

theorem names_of_declared? {t declared : Text}
    (h : (Json.read halves (Text.asRead t)).toOption.bind declared? = some declared) :
    Names halves (Utf8.encode t) (Text.strip declared) := by
  cases hread : Json.read halves (Text.asRead t) with
  | error e =>
    rw [hread] at h
    cases h
  | ok value =>
    rw [hread] at h
    change declared? value = some declared at h
    cases value with
    | map fields =>
      obtain ⟨v, hfield, hv⟩ := Option.bind_eq_some_iff.1 h
      cases v with
      | text declared' =>
        cases hv
        exact names_encode_iff.2 ⟨fields, declared, hread, hfield, rfl⟩
      | _ => cases hv
    | _ => cases h

/-- A manifest with blanks around the name. -/
def padded : Text := "\x7b\"name\": \" demo\\n\"\x7d".toList

/-- The name is read without the blanks. -/
theorem read_answers_iff_padded :
    ∃ m, ((read sampleVoice sampleRoot).outcome (packageOf (Utf8.encode padded))).1 = .ok m ∧
      m.name = "demo".toList := by
  have hnames : Names sampleVoice.host.halves (Utf8.encode padded) (Text.strip " demo\n".toList) :=
    names_of_declared? (by decide +kernel)
  exact ((read_answers_iff sampleVoice sampleRoot (packageOf (Utf8.encode padded))).1 _).2
    ⟨by decide, by decide, _, found_packageOf _, hnames⟩

/-- A manifest whose name is a byte that starts no character. -/
def unspellable : Bytes :=
  Utf8.encode "\x7b\"name\": \"".toList ++ [0xff] ++ Utf8.encode "\"\x7d".toList

/-- It has no text, and reading it ends with a fault of the bytes and with no answer. -/
theorem unspellable_not_answered :
    ((read sampleVoice sampleRoot).outcome (packageOf unspellable)).1 = .error .undecodable ∧
      ¬ Answered ((read sampleVoice sampleRoot).outcome (packageOf unspellable)).1 := by
  have hnone : ¬ ∃ t, Utf8.encode t = unspellable := by
    rintro ⟨t, ht⟩
    have hdecode : (Utf8.decode unspellable).isNone = true := by decide +kernel
    rw [← ht, Utf8.decode_encode] at hdecode
    cases hdecode
  have hread : ((read sampleVoice sampleRoot).outcome (packageOf unspellable)).1 =
      .error .undecodable := by
    have hclean : sampleRoot.fault? sampleVoice.host.halves = none := by decide
    rw [result_read, hclean, found_packageOf]
    exact ofContent_of_not_text hnone
  have hstops : Stops sampleVoice.host.halves unspellable .undecodable := .noText hnone
  refine ⟨hread, ?_⟩
  rw [hread]
  exact hstops.not_answered

end Manifest
end AmbientBundle
