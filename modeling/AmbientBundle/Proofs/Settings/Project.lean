import AmbientBundle.Proofs.Generate.Ground

/-!
# The mapping of a project file

A project file stands for a mapping, and the mapping gives values to options.  How the text of the
file is read is up to the host, so what is said here is said of any mapping.

An entry of the mapping can be at fault in two ways.  It is *invalid* if its key means no option or
if its option does not accept the value; that is a fault of the settings.  It is *illegible* if a
text is taken of the key or of the value and there is none, since a number has too many digits or
collections lie in one another too deep, or if the text is that of a path that no file system can be
asked for; that is misuse.  An entry without either fault is sound.

Entries are taken one after the other.  If all of them are sound, each option has what the last
entry for it gives (`coerce_of_sound`); otherwise the first entry that is not sound decides how
taking them fails (`coerce_of_flaw`).
-/

namespace AmbientBundle

/-! ## Texts of values -/

namespace Value

/-- The text of a value that can be taken for a text, however long it is. -/
def plainText? : Value → Option Text
  | .text t => some t
  | .bool b => some (Value.bool b).shown
  | .int i => some (Value.int i).shown
  | .float x => some (Value.float x).shown
  | _ => none

/-- Whether a value is a whole number and no truth value. -/
def isInt : Value → Bool
  | .int _ => true
  | _ => false

/-- Whether a value can be written. -/
def isWritable (v : Value) : Bool := !v.tooLong && decide (v.depth ≤ writtenDepth)

/-- The text of a value where halves of pairs are written by their codes. -/
def spelled (halves : Halves) (v : Value) : Text := v.shownWith halves.quote

theorem written_of_isWritable {v : Value} (halves : Halves) (h : v.isWritable = true) :
    v.written halves = .ok (v.spelled halves) := by
  simp only [isWritable, Bool.and_eq_true, Bool.not_eq_true', decide_eq_true_eq] at h
  rw [written, h.1, if_neg Bool.false_ne_true, if_neg (Nat.not_lt.2 h.2)]
  rfl

theorem written_of_not_isWritable {v : Value} (halves : Halves) (h : v.isWritable = false) :
    ∃ how, v.written halves = .error (.misuse how) := by
  rw [written]
  cases hlong : v.tooLong with
  | true => exact ⟨.range, rfl⟩
  | false =>
    simp only [isWritable, hlong, Bool.not_false, Bool.true_and, decide_eq_false_iff_not,
      Nat.not_le] at h
    exact ⟨.depth, by rw [if_neg Bool.false_ne_true, if_pos h]⟩

/-- Whole numbers apart, a text is used as it is. -/
theorem asText_of_not_isInt {v : Value} (h : v.isInt = false) : v.asText = .ok v.plainText? := by
  cases v with
  | int i => cases h
  | _ => rfl

theorem asText_of_isWritable {v : Value} (h : v.isWritable = true) :
    v.asText = .ok v.plainText? := by
  cases v with
  | int i =>
    simp only [isWritable, Bool.and_eq_true, Bool.not_eq_true'] at h
    rw [asText, h.1]
    rfl
  | _ => rfl

theorem asText_of_not_isWritable {v : Value} (hint : v.isInt = true) (h : v.isWritable = false) :
    ∃ how, v.asText = .error (.misuse how) := by
  cases v with
  | int i =>
    have hlong : (Value.int i).tooLong = true := by
      simpa [isWritable, depth] using h
    exact ⟨.range, by rw [asText, hlong]; rfl⟩
  | _ => cases hint

/-- What cannot be written is a whole number or has no text that could be used. -/
theorem plainText?_of_not_isWritable {v : Value} (hint : v.isInt = false)
    (h : v.isWritable = false) : v.plainText? = none := by
  cases v with
  | int i => cases hint
  | bool b => simp [isWritable, tooLong, depth] at h
  | float x => simp [isWritable, tooLong, depth] at h
  | text t => simp [isWritable, tooLong, depth] at h
  | _ => rfl

end Value

/-! ## Entries at fault -/

namespace Field

/-- Whether an option is a path. -/
def isPath : Field → Bool
  | .root => true
  | .tmp => true
  | .logFile => true
  | _ => false

/-- Whether the text of a value is taken for an option: for a path that is given at all, for a
level, and for whole numbers where a text is wanted. -/
def readsText (f : Field) (v : Value) : Bool :=
  match f with
  | .root => true
  | .logLevel => true
  | .tmp => v.holds
  | .logFile => v.holds
  | .noAlias => false
  | .force => false
  | .testMode => false
  | _ => v.isInt

/-- Whether the text that is taken of a value for an option can be had and used. -/
def canRead (halves : Halves) (f : Field) (v : Value) : Bool :=
  !f.readsText v ||
    (v.isWritable && !(f.isPath && (Text.fault? halves (v.spelled halves)).isSome))

/-- Whether an option accepts a value: a flag takes truth values only, and a level has to be
known. -/
def accepts (f : Field) (v : Value) : Bool :=
  if f.isFlag then v.asBool.isSome
  else if f = .logLevel then (v.plainText?.bind fun t => Level.find? (Text.lower t)).isSome
  else true

end Field

namespace Settings

/-- The option that the key of an entry means. -/
def meant? (host : Host) (e : Value × Value) : Option Field :=
  Field.ofKey? (e.1.spelled host.halves)

/-- Whether the texts that an entry is taken for can be had and used. -/
def isLegible (host : Host) (e : Value × Value) : Bool :=
  e.1.isWritable &&
    match meant? host e with
    | none => true
    | some f => f.canRead host.halves e.2

/-- Whether the key of an entry means an option that accepts the value. -/
def isValid (host : Host) (e : Value × Value) : Bool :=
  match meant? host e with
  | none => false
  | some f => f.accepts e.2

/-- Whether an entry has no fault. -/
def isSound (host : Host) (e : Value × Value) : Bool := isLegible host e && isValid host e

theorem isSound_iff {host : Host} {e : Value × Value} :
    isSound host e = true ↔ isLegible host e = true ∧ isValid host e = true := Bool.and_eq_true_iff

/-- The path that a value stands for in a project file. -/
def placeIn (host : Host) (root : Path) (v : Value) : Path :=
  Path.resolve host.cwd (root.join (Path.parse (v.spelled host.halves)))

/-- What a value that is accepted gives to an option. -/
def coerced (host : Host) (root : Path) (f : Field) (v : Value) : Setting :=
  match f with
  | .root => .path (placeIn host root v)
  | .tmp => if v.holds then .path (placeIn host root v) else .value .null
  | .logFile => if v.holds then .path (placeIn host root v) else .value .null
  | .logLevel => .value (.text (Text.lower (v.plainText?.getD [])))
  | .noAlias => .value (.bool (v.asBool.getD false))
  | .force => .value (.bool (v.asBool.getD false))
  | .testMode => .value (.bool (v.asBool.getD false))
  | .shake =>
      match v with
      | .bool false => .value (.text "off".toList)
      | _ => .value (Value.ofText? v.plainText?)
  | _ => .value (Value.ofText? v.plainText?)

end Settings

/-! ## Taking one value -/

namespace Settings

section

variable {host : Host} {root : Path} {key : Text} {f : Field} {v : Value}

/-- How taking a value for an option ends: with a misuse if it cannot be read, with a fault of the
settings if it is not accepted, and with what it gives otherwise. -/
inductive Taken (host : Host) (root : Path) (f : Field) (v : Value) :
    Except Fault Setting → Prop where
  | unread {e : Fault} (he : e.IsMisuse) (hread : f.canRead host.halves v = false) :
      Taken host root f v (.error e)
  | refused (cause : SettingsFault) (hread : f.canRead host.halves v = true)
      (haccept : f.accepts v = false) : Taken host root f v (.error (.settings cause))
  | given {s : Setting} (hread : f.canRead host.halves v = true) (haccept : f.accepts v = true)
      (hs : coerced host root f v = s) : Taken host root f v (.ok s)

theorem pathIn_of_isWritable (hroot : root.fault? host.halves = none) (h : v.isWritable = true) :
    (Text.fault? host.halves (v.spelled host.halves) = none ∧
        pathIn host root v = .ok (.path (placeIn host root v))) ∨
      (Text.fault? host.halves (v.spelled host.halves)).isSome = true ∧
        ∃ e, e.IsMisuse ∧ pathIn host root v = .error e := by
  have hfault := (Path.fault?_join hroot).trans (Path.fault?_parse (t := v.spelled host.halves))
  rw [← Path.partFault?_eq_none_iff] at hfault
  rw [pathIn, Value.written_of_isWritable host.halves h]
  simp only [Bind.bind, Except.bind, resolved]
  cases hpart : (root.join (Path.parse (v.spelled host.halves))).partFault? host.halves with
  | none => exact Or.inl ⟨hfault.1 hpart, rfl⟩
  | some e =>
    refine Or.inr ⟨?_, e, Path.isMisuse_of_partFault? hpart, rfl⟩
    rw [Option.isSome_iff_ne_none]
    intro hnone
    rw [hfault.2 hnone] at hpart
    cases hpart

/-- A path is taken if its text can be had and a file system can be asked for it. -/
theorem taken_path (hroot : root.fault? host.halves = none) (hpath : f.isPath = true)
    (hreads : f.readsText v = true)
    (hcoerced : coerced host root f v = .path (placeIn host root v)) :
    Taken host root f v (pathIn host root v) := by
  have haccept : f.accepts v = true := by
    cases f <;> first | rfl | cases hpath
  cases hwritable : v.isWritable with
  | false =>
    obtain ⟨how, hhow⟩ := Value.written_of_not_isWritable host.halves hwritable
    rw [pathIn, hhow]
    exact .unread (e := .misuse how) trivial (by rw [Field.canRead, hreads, hwritable]; rfl)
  | true =>
    rcases pathIn_of_isWritable hroot hwritable with ⟨hclean, hplace⟩ | ⟨hfault, e, he, herror⟩
    · rw [hplace]
      exact .given (by rw [Field.canRead, hreads, hwritable, hpath, hclean]; rfl) haccept hcoerced
    · rw [herror]
      exact .unread he (by rw [Field.canRead, hreads, hwritable, hpath, hfault]; rfl)

/-- A level is taken if it is known; the text of another value is taken for the message. -/
theorem taken_level : Taken host root .logLevel v (levelIn host v) := by
  have hread : Field.canRead host.halves .logLevel v = v.isWritable := by
    simp [Field.canRead, Field.readsText, Field.isPath]
  have haccept : Field.accepts .logLevel v =
      (v.plainText?.bind fun t => Level.find? (Text.lower t)).isSome := rfl
  cases hwritable : v.isWritable with
  | false =>
    rw [levelIn]
    cases hint : v.isInt with
    | true =>
      obtain ⟨how, htext⟩ := Value.asText_of_not_isWritable hint hwritable
      rw [htext]
      exact .unread (e := .misuse how) trivial (hread.trans hwritable)
    | false =>
      obtain ⟨how, hhow⟩ := Value.written_of_not_isWritable host.halves hwritable
      rw [Value.asText_of_not_isInt hint, Value.plainText?_of_not_isWritable hint hwritable, hhow]
      exact .unread (e := .misuse how) trivial (hread.trans hwritable)
  | true =>
    rw [levelIn, Value.asText_of_isWritable hwritable, Value.written_of_isWritable _ hwritable]
    cases hplain : v.plainText? with
    | none => exact .refused _ (hread.trans hwritable) (by rw [haccept, hplain]; rfl)
    | some t =>
      simp only [Bind.bind, Except.bind]
      rw [hplain, Option.bind_some] at haccept
      cases hlevel : (Level.find? (Text.lower t)).isSome with
      | true =>
        exact .given (hread.trans hwritable) (haccept.trans hlevel) (by rw [coerced, hplain]; rfl)
      | false => exact .refused _ (hread.trans hwritable) (haccept.trans hlevel)

/-- A text is taken of scalars, and of whole numbers only if they can be written. -/
theorem taken_text (haccept : f.accepts v = true) (hpath : f.isPath = false)
    (hreads : f.readsText v = v.isInt)
    (hcoerced : coerced host root f v = .value (Value.ofText? v.plainText?)) :
    Taken host root f v (v.asText.map fun t => .value (Value.ofText? t)) := by
  have hread : f.canRead host.halves v = (!v.isInt || v.isWritable) := by
    rw [Field.canRead, hreads, hpath, Bool.false_and, Bool.not_false, Bool.and_true]
  cases hint : v.isInt with
  | false =>
    rw [Value.asText_of_not_isInt hint]
    exact .given (by rw [hread, hint]; rfl) haccept hcoerced
  | true =>
    cases hwritable : v.isWritable with
    | false =>
      obtain ⟨how, htext⟩ := Value.asText_of_not_isWritable hint hwritable
      rw [htext]
      exact .unread (e := .misuse how) trivial (by rw [hread, hint, hwritable]; rfl)
    | true =>
      rw [Value.asText_of_isWritable hwritable]
      exact .given (by rw [hread, hint, hwritable]; rfl) haccept hcoerced

/-- A flag is taken of truth values and of words for them. -/
theorem taken_flag (hflag : f.isFlag = true)
    (hcoerced : coerced host root f v = .value (.bool (v.asBool.getD false))) :
    Taken host root f v (coerceValue host root key f v) := by
  have hread : f.canRead host.halves v = true := by
    cases f <;> first | rfl | cases hflag
  have haccept : f.accepts v = v.asBool.isSome := by rw [Field.accepts, hflag, if_pos rfl]
  unfold coerceValue
  rw [hflag, if_pos rfl]
  cases hbool : v.asBool with
  | none => exact .refused _ hread (by rw [haccept, hbool]; rfl)
  | some b => exact .given hread (by rw [haccept, hbool]; rfl) (by rw [hcoerced, hbool]; rfl)

/-- How taking a value ends depends on whether it can be read and is accepted. -/
theorem taken_coerceValue (host : Host) (hroot : root.fault? host.halves = none) (key : Text)
    (f : Field) (v : Value) : Taken host root f v (coerceValue host root key f v) := by
  have hoptional (hpath : f.isPath = true) (hreads : f.readsText v = v.holds)
      (hcoerced : coerced host root f v =
        if v.holds then .path (placeIn host root v) else .value .null) :
      Taken host root f v (if v.holds then pathIn host root v else .ok (.value .null)) := by
    cases hholds : v.holds with
    | true => exact taken_path hroot hpath (hreads.trans hholds) (by rw [hcoerced, if_pos hholds])
    | false =>
      rw [hholds] at hreads hcoerced
      exact .given (by rw [Field.canRead, hreads]; rfl) (by cases f <;> first | rfl | cases hpath)
        hcoerced
  cases f with
  | root => exact taken_path hroot rfl rfl rfl
  | tmp => exact hoptional rfl rfl rfl
  | logFile => exact hoptional rfl rfl rfl
  | logLevel => exact taken_level
  | noAlias => exact taken_flag rfl rfl
  | force => exact taken_flag rfl rfl
  | testMode => exact taken_flag rfl rfl
  | entry => exact taken_text rfl rfl rfl rfl
  | tsc => exact taken_text rfl rfl rfl rfl
  | output => exact taken_text rfl rfl rfl rfl
  | customAlias => exact taken_text rfl rfl rfl rfl
  | template => exact taken_text rfl rfl rfl rfl
  | shake =>
    -- Of all options only this one has a value of its own for a truth value.
    cases v with
    | bool b =>
      cases b with
      | false => exact .given rfl rfl rfl
      | true => exact taken_text rfl rfl rfl rfl
    | _ => exact taken_text rfl rfl rfl rfl

/-! ## Taking the mapping -/

/-- The value of the last entry that means an option. -/
def lastFor (host : Host) (data : List (Value × Value)) (f : Field) : Option Value :=
  (data.filterMap fun e => if meant? host e = some f then some e.2 else none).getLast?

theorem lastFor_cons (e : Value × Value) (data : List (Value × Value)) (f : Field) :
    lastFor host (e :: data) f =
      (lastFor host data f).or (if meant? host e = some f then some e.2 else none) := by
  rw [lastFor, lastFor, List.filterMap_cons]
  split
  · next h => rw [h, Option.or_none]
  · next v h =>
    rw [h, List.getLast?_cons]
    cases (data.filterMap _).getLast? with
    | none => rfl
    | some w => rfl

/-- What an option has after an entry for another one is what it had before. -/
theorem give_coerced {e : Value × Value} {g : Field} (hkey : meant? host e = some g)
    (d : Draft) (data : List (Value × Value)) (f : Field) :
    ((lastFor host data f).map (coerced host root f)).or (d.give g (coerced host root g e.2) f) =
      ((lastFor host (e :: data) f).map (coerced host root f)).or (d f) := by
  rw [lastFor_cons, hkey, Draft.give]
  cases lastFor host data f with
  | some v => rfl
  | none =>
    by_cases hf : f = g
    · subst hf
      rw [if_pos rfl, if_pos rfl]
      rfl
    · rw [if_neg hf, if_neg fun h => hf (Option.some.inj h).symm]
      rfl

/-- How taking a mapping goes on after its first entry. -/
inductive Step (host : Host) (root : Path) (d : Draft) (e : Value × Value)
    (rest : List (Value × Value)) : Except Fault Draft → Prop where
  | unread {f : Fault} (hf : f.IsMisuse) (hlegible : isLegible host e = false) :
      Step host root d e rest (.error f)
  | refused (cause : SettingsFault) (hlegible : isLegible host e = true)
      (hvalid : isValid host e = false) : Step host root d e rest (.error (.settings cause))
  | given {f : Field} (hlegible : isLegible host e = true) (hvalid : isValid host e = true)
      (hkey : meant? host e = some f) :
      Step host root d e rest
        (coerceFrom host root (d.give f (coerced host root f e.2)) rest)

theorem step_coerceFrom (host : Host) (hroot : root.fault? host.halves = none) (d : Draft)
    (e : Value × Value) (rest : List (Value × Value)) :
    Step host root d e rest (coerceFrom host root d (e :: rest)) := by
  obtain ⟨k, v⟩ := e
  rw [coerceFrom]
  cases hwritable : k.isWritable with
  | false =>
    obtain ⟨how, hhow⟩ := Value.written_of_not_isWritable host.halves hwritable
    rw [hhow]
    exact .unread (f := .misuse how) trivial (by simp only [isLegible, hwritable, Bool.false_and])
  | true =>
    rw [Value.written_of_isWritable _ hwritable]
    simp only [Bind.bind, Except.bind]
    cases hkey : Field.ofKey? (k.spelled host.halves) with
    | none =>
      exact .refused _ (by simp [isLegible, meant?, hwritable, hkey])
        (by simp [isValid, meant?, hkey])
    | some f =>
      have hlegible : isLegible host (k, v) = f.canRead host.halves v := by
        simp [isLegible, meant?, hwritable, hkey]
      have hvalid : isValid host (k, v) = f.accepts v := by simp [isValid, meant?, hkey]
      have htaken := taken_coerceValue host hroot (k.spelled host.halves) f v
      simp only
      generalize coerceValue host root (k.spelled host.halves) f v = r at htaken ⊢
      cases htaken with
      | unread he hread => exact .unread he (hlegible.trans hread)
      | refused cause hread haccept =>
        exact .refused cause (hlegible.trans hread) (hvalid.trans haccept)
      | given hread haccept hs =>
        subst hs
        exact .given (hlegible.trans hread) (hvalid.trans haccept) hkey

/-- If every entry is sound, each option has what the last entry for it gives. -/
theorem coerce_of_sound (host : Host) (hroot : root.fault? host.halves = none)
    {data : List (Value × Value)} (hsound : ∀ e ∈ data, isSound host e = true) (d : Draft) :
    ∃ d', coerceFrom host root d data = .ok d' ∧
      ∀ f, d' f = ((lastFor host data f).map (coerced host root f)).or (d f) := by
  induction data generalizing d with
  | nil => exact ⟨d, rfl, fun f => rfl⟩
  | cons e rest ih =>
    have he := hsound e List.mem_cons_self
    rw [isSound, Bool.and_eq_true] at he
    have hstep := step_coerceFrom host hroot d e rest
    generalize coerceFrom host root d (e :: rest) = r at hstep ⊢
    cases hstep with
    | unread hf hlegible => rw [he.1] at hlegible; cases hlegible
    | refused cause hlegible hvalid => rw [he.2] at hvalid; cases hvalid
    | given hlegible hvalid hkey =>
      obtain ⟨d', hd', hget⟩ := ih (fun e he => hsound e (List.mem_cons_of_mem _ he)) _
      exact ⟨d', hd', fun f => (hget f).trans (give_coerced hkey d rest f)⟩

/-- The first entry that is not sound decides how taking a mapping fails. -/
theorem coerce_of_flaw (host : Host) (hroot : root.fault? host.halves = none)
    {front : List (Value × Value)} {e : Value × Value}
    (hfront : ∀ e ∈ front, isSound host e = true) (he : isSound host e = false)
    (back : List (Value × Value)) (d : Draft) :
    (isLegible host e = true → ∃ cause,
      coerceFrom host root d (front ++ e :: back) = .error (.settings cause)) ∧
    (isLegible host e = false → ∃ f, f.IsMisuse ∧
      coerceFrom host root d (front ++ e :: back) = .error f) := by
  induction front generalizing d with
  | nil =>
    have hstep := step_coerceFrom host hroot d e back
    rw [List.nil_append]
    generalize coerceFrom host root d (e :: back) = r at hstep ⊢
    cases hstep with
    | unread hf hlegible => exact ⟨fun h => absurd (hlegible.symm.trans h) Bool.false_ne_true,
        fun _ => ⟨_, hf, rfl⟩⟩
    | refused cause hlegible hvalid => exact ⟨fun _ => ⟨cause, rfl⟩,
        fun h => absurd (h.symm.trans hlegible) Bool.false_ne_true⟩
    | given hlegible hvalid hkey =>
      rw [isSound, hlegible, hvalid] at he
      cases he
  | cons e' front ih =>
    have he' := hfront e' List.mem_cons_self
    rw [isSound, Bool.and_eq_true] at he'
    have hstep := step_coerceFrom host hroot d e' (front ++ e :: back)
    rw [List.cons_append]
    generalize coerceFrom host root d (e' :: (front ++ e :: back)) = r at hstep ⊢
    cases hstep with
    | unread hf hlegible => rw [he'.1] at hlegible; cases hlegible
    | refused cause hlegible hvalid => rw [he'.2] at hvalid; cases hvalid
    | given hlegible hvalid hkey => exact ih (fun e he => hfront e (List.mem_cons_of_mem _ he)) _

/-- The entries of a mapping are sound, or one of them is the first that is not. -/
theorem sound_or_flaw (data : List (Value × Value)) :
    (∀ e ∈ data, isSound host e = true) ∨
      ∃ front e back, data = front ++ e :: back ∧ (∀ e ∈ front, isSound host e = true) ∧
        isSound host e = false := by
  cases hfind : data.find? fun e => !isSound host e with
  | none =>
    refine Or.inl fun e he => ?_
    simpa using List.find?_eq_none.1 hfind e he
  | some e =>
    obtain ⟨hflaw, front, back, hdata, hfront⟩ := List.find?_eq_some_iff_append.1 hfind
    exact Or.inr ⟨front, e, back, hdata, fun e he => by simpa using hfront e he,
      by simpa using hflaw⟩

/-- A mapping that is taken is sound. -/
theorem sound_of_coerce (hroot : root.fault? host.halves = none) {data : List (Value × Value)}
    {d : Draft} (h : coerce host root data = .ok d) : ∀ e ∈ data, isSound host e = true := by
  rcases sound_or_flaw data with hsound | ⟨front, e, back, rfl, hfront, hflaw⟩
  · exact hsound
  · obtain ⟨hrefused, hunread⟩ := coerce_of_flaw host hroot hfront hflaw back Draft.empty
    rw [coerce] at h
    cases hlegible : isLegible host e with
    | true =>
      obtain ⟨cause, hcause⟩ := hrefused hlegible
      rw [hcause] at h
      cases h
    | false =>
      obtain ⟨f, -, hf⟩ := hunread hlegible
      rw [hf] at h
      cases h

/-- Taking a mapping is refused exactly if some entry is invalid and no entry up to it is
illegible. -/
theorem coerce_refused_iff (host : Host) (hroot : root.fault? host.halves = none)
    (data : List (Value × Value)) :
    (∃ cause, coerce host root data = .error (.settings cause)) ↔
      ∃ front e back, data = front ++ e :: back ∧ (∀ e' ∈ front, isLegible host e' = true) ∧
        isLegible host e = true ∧ isValid host e = false := by
  constructor
  · rintro ⟨cause, hrefused⟩
    rcases sound_or_flaw data with hsound | ⟨front, e, back, rfl, hfront, hflaw⟩
    · obtain ⟨d, hd, -⟩ := coerce_of_sound host hroot hsound Draft.empty
      rw [coerce, hd] at hrefused
      cases hrefused
    · obtain ⟨-, hunread⟩ := coerce_of_flaw host hroot hfront hflaw back Draft.empty
      cases hlegible : isLegible host e with
      | true =>
        rw [isSound, hlegible, Bool.true_and] at hflaw
        exact ⟨front, e, back, rfl, fun e' he' => (isSound_iff.1 (hfront e' he')).1, hlegible,
          hflaw⟩
      | false =>
        obtain ⟨f, hf, hfails⟩ := hunread hlegible
        rw [coerce, hfails] at hrefused
        cases hrefused
        cases hf
  · rintro ⟨front, e, back, rfl, hfront, hlegible, hinvalid⟩
    have hall : ∀ e' ∈ front ++ [e], isLegible host e' = true := by
      intro e' he'
      rcases List.mem_append.1 he' with hmem | hmem
      · exact hfront e' hmem
      · rwa [List.mem_singleton.1 hmem]
    -- The first flaw may stand before the invalid entry, but it is legible all the same.
    rcases sound_or_flaw (front ++ [e]) with hsound | ⟨before, flaw, after, hsplit, hbefore, hflaw⟩
    · have hvalid := (isSound_iff.1 (hsound e (by simp))).2
      rw [hinvalid] at hvalid
      cases hvalid
    · have hdata : front ++ e :: back = before ++ flaw :: (after ++ back) := by
        rw [← List.singleton_append, ← List.append_assoc, hsplit, List.append_assoc,
          List.cons_append]
      rw [coerce, hdata]
      exact (coerce_of_flaw host hroot hbefore hflaw _ Draft.empty).1
        (hall flaw (by rw [hsplit]; simp))

end
end Settings
end AmbientBundle
