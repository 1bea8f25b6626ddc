import AmbientBundle.Text

/-!
# Declarations

The declarations of a package map each module id to the text declared for it, in
the order in which the ids were first met.  `insert` keeps an id at its first
place and gives it the last text, so no id occurs twice.  That invariant is part
of the type, and `find?` is the view that the lemmas speak about.
-/

namespace AmbientBundle

/-- The name of a module of a bundle. -/
abbrev ModuleId := Text

/-- Set the text of an id, at the place it already has or else at the end. -/
def insertEntry (m : ModuleId) (body : Text) : List (ModuleId × Text) → List (ModuleId × Text)
  | [] => [(m, body)]
  | (n, b) :: rest => if n = m then (n, body) :: rest else (n, b) :: insertEntry m body rest

/-- Setting a text adds its id to the ids, if it is new. -/
theorem mem_map_fst_insertEntry {m n : ModuleId} {body : Text} {es : List (ModuleId × Text)} :
    n ∈ (insertEntry m body es).map Prod.fst ↔ n = m ∨ n ∈ es.map Prod.fst := by
  induction es with
  | nil => simp [insertEntry]
  | cons e rest ih =>
    obtain ⟨k, b⟩ := e
    rw [insertEntry]
    split
    · next h =>
      subst h
      simp
    · simp only [List.map_cons, List.mem_cons, ih]
      constructor
      · rintro (h | h | h) <;> simp [h]
      · rintro (h | h | h) <;> simp [h]

/-- Setting a text repeats no id. -/
theorem nodup_insertEntry (m : ModuleId) (body : Text) {es : List (ModuleId × Text)}
    (h : (es.map Prod.fst).Nodup) : ((insertEntry m body es).map Prod.fst).Nodup := by
  induction es with
  | nil => simp [insertEntry]
  | cons e rest ih =>
    obtain ⟨k, b⟩ := e
    rw [List.map_cons, List.nodup_cons] at h
    rw [insertEntry]
    split
    · simpa using h
    · next hk =>
      rw [List.map_cons, List.nodup_cons]
      refine ⟨fun hmem => ?_, ih h.2⟩
      rcases mem_map_fst_insertEntry.1 hmem with hk' | hk'
      · exact hk hk'
      · exact h.1 hk'

/-- The texts of the modules of a package, in order. -/
structure Declarations where
  /-- The modules with their texts. -/
  entries : List (ModuleId × Text)
  /-- No module occurs twice. -/
  nodup : (entries.map Prod.fst).Nodup := by decide

namespace Declarations

/-- No declarations. -/
def empty : Declarations := { entries := [] }

/-- The ids, in order. -/
def ids (d : Declarations) : List ModuleId := d.entries.map Prod.fst

/-- Set the text of a module. -/
def insert (d : Declarations) (m : ModuleId) (body : Text) : Declarations :=
  ⟨insertEntry m body d.entries, nodup_insertEntry m body d.nodup⟩

/-- Set the texts of a list of modules, one after the other. -/
def ofList (es : List (ModuleId × Text)) : Declarations :=
  es.foldl (fun d e => d.insert e.1 e.2) empty

/-- The text of a module. -/
def find? (d : Declarations) (m : ModuleId) : Option Text := d.entries.lookup m

/-- Whether a module is declared. -/
def contains (d : Declarations) (m : ModuleId) : Bool := (d.find? m).isSome

/-- Change every text, given its module. -/
def mapTexts (d : Declarations) (f : ModuleId → Text → Text) : Declarations where
  entries := d.entries.map fun e => (e.1, f e.1 e.2)
  nodup := by
    have h : (d.entries.map fun e => (e.1, f e.1 e.2)).map Prod.fst = d.entries.map Prod.fst := by
      rw [List.map_map]
      rfl
    rw [h]
    exact d.nodup

/-- The declared modules among a list of ids, in the order of the list. -/
def select (d : Declarations) (ms : List ModuleId) : Declarations :=
  ofList (ms.filterMap fun m => (d.find? m).map fun body => (m, body))

/-- What is found under an id is one of the entries. -/
theorem mem_entries_of_lookup {m : ModuleId} {body : Text} {es : List (ModuleId × Text)}
    (h : es.lookup m = some body) : (m, body) ∈ es := by
  induction es with
  | nil => simp at h
  | cons e rest ih =>
    obtain ⟨k, b⟩ := e
    rw [List.lookup_cons] at h
    by_cases hk : m = k
    · subst hk
      simp at h
      simp [h]
    · have hb : (m == k) = false := by simp [hk]
      rw [hb] at h
      exact List.mem_cons_of_mem _ (ih h)

/-- A module with a text is declared. -/
theorem mem_ids_of_find? {d : Declarations} {m : ModuleId} {body : Text}
    (h : d.find? m = some body) : m ∈ d.ids :=
  List.mem_map.2 ⟨(m, body), mem_entries_of_lookup h, rfl⟩

end Declarations
end AmbientBundle
