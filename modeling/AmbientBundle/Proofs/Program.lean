import AmbientBundle.Compiler.Program
import AmbientBundle.Proofs.Generate.History
import AmbientBundle.Proofs.Utf8

/-!
# Programs that are started

The compiler is a program in the file tree.  Of the files that it may be, the first that can be run
is started (`Image.firstOf_eq_ok_iff`), and what the package installs itself comes before everything
else (`candidates_searchPath`).  So a package with a compiler of its own is compiled by that one,
whatever the search path is (`launcher_own`).  A launch that starts nothing changes nothing
(`launcher_cases`).

What a program writes has to be text.  A run does not learn how a program ended that wrote anything
else, and it stops, whether errors of the compiler are ignored or not (`garbled_stops`).
-/

namespace AmbientBundle

/-! ## The bytes of a path -/

/-- Only a character of ASCII is written with a byte of ASCII. -/
theorem Utf8.eq_of_mem_encodeChar {x : Char} {b : UInt8} (hb : b ∈ String.utf8EncodeChar x)
    (hsmall : b.toNat < 128) : x = Char.ofNat b.toNat := by
  have hspelt := spells_encodeChar x
  generalize String.utf8EncodeChar x = w at hb hspelt
  cases hspelt with
  | single a h => rw [List.mem_singleton.1 hb]
  | pair a b h =>
    obtain ⟨hlead, hnext, -⟩ := h
    simp only [List.mem_cons, List.not_mem_nil, or_false] at hb
    rcases hb with rfl | rfl <;> omega
  | triple a b c h =>
    obtain ⟨hlead, ⟨hb', -⟩, -, -, hc, -⟩ := h
    simp only [List.mem_cons, List.not_mem_nil, or_false] at hb
    rcases hb with rfl | rfl | rfl <;> omega
  | quadruple a b c d h =>
    obtain ⟨hlead, ⟨hb', -⟩, -, -, ⟨hc, -⟩, hd, -⟩ := h
    simp only [List.mem_cons, List.not_mem_nil, or_false] at hb
    rcases hb with rfl | rfl | rfl | rfl <;> omega

namespace Octets

theorem ofBytes_append (bs cs : Bytes) : ofBytes (bs ++ cs) = ofBytes bs ++ ofBytes cs :=
  List.map_append

theorem ofBytes_encodeChar {c : Char} (h : c.toNat < 128) :
    ofBytes (String.utf8EncodeChar c) = [c] := by
  have hencode := Utf8.encodeChar_ofNat (n := c.toNat) c.valid
  rw [Char.ofNat_toNat, if_pos (Nat.le_of_lt_succ h)] at hencode
  rw [hencode, ofBytes, List.map_singleton, Utf8.toNat_ofNat (by omega), Char.ofNat_toNat]

/-- A text of ASCII is its own bytes. -/
theorem ofText_eq (t : Text) : ofText t = ofBytes (Utf8.encode t) := by
  rw [ofText]
  split
  · next hascii =>
    induction t with
    | nil => rfl
    | cons c rest ih =>
      rw [List.all_cons, Bool.and_eq_true, decide_eq_true_eq] at hascii
      rw [Utf8.encode, List.flatMap_cons, ofBytes_append, ofBytes_encodeChar hascii.1]
      exact congrArg (c :: ·) (ih hascii.2)
  · rfl

theorem ofText_append (t u : Text) : ofText (t ++ u) = ofText t ++ ofText u := by
  simp only [ofText_eq, Utf8.encode, List.flatMap_append, ofBytes_append]

theorem ofText_cons {c : Char} (h : c.toNat < 128) (t : Text) :
    ofText (c :: t) = c :: ofText t := by
  rw [ofText_eq, ofText_eq, Utf8.encode, List.flatMap_cons, ofBytes_append, ofBytes_encodeChar h]
  rfl

/-- A byte of ASCII is a character of the text. -/
theorem mem_of_mem_ofText {c : Char} (hc : c.toNat < 128) {t : Text} (h : c ∈ ofText t) :
    c ∈ t := by
  rw [ofText_eq, ofBytes, List.mem_map] at h
  obtain ⟨b, hb, rfl⟩ := h
  obtain ⟨x, hx, hspelt⟩ := List.mem_flatMap.1 hb
  have hvalid : b.toNat.isValidChar := Or.inl (Nat.lt_trans b.toNat_lt (by decide))
  have hsmall : b.toNat < 128 := by
    rw [Char.ofNat, dif_pos hvalid] at hc
    exact hc
  rwa [← Utf8.eq_of_mem_encodeChar hspelt hsmall]

end Octets

/-! ## The first file that can be run -/

namespace Shell.Image

variable {tree : Folder} {cwd : Spot} {words : List Octets} {image : Image}

/-- The first of some files that can be run is run, with everything in front of it passed over. -/
theorem firstOf_eq_ok_iff {reason : Option Errno} {last : Errno} {files : List Octets} :
    firstOf tree cwd words reason last files = .ok image ↔
      ∃ front file back, files = front ++ file :: back ∧
        (∀ passed ∈ front, ∃ e, ofPath tree cwd passed words = .error e) ∧
        ofPath tree cwd file words = .ok image := by
  induction files generalizing reason last with
  | nil => simp [firstOf]
  | cons file rest ih =>
    rw [firstOf]
    cases hfile : ofPath tree cwd file words with
    | ok found =>
      simp only [Except.ok.injEq]
      constructor
      · rintro rfl
        exact ⟨[], file, rest, rfl, nofun, hfile⟩
      · rintro ⟨front, file', back, hfiles, hfront, hrun⟩
        cases front with
        | nil =>
          cases hfiles
          exact Except.ok.inj (hfile.symm.trans hrun)
        | cons first more =>
          cases hfiles
          obtain ⟨e, he⟩ := hfront file List.mem_cons_self
          cases hfile.symm.trans he
    | error e =>
      have hskip : (∃ front file' back, rest = front ++ file' :: back ∧
            (∀ passed ∈ front, ∃ e, ofPath tree cwd passed words = .error e) ∧
            ofPath tree cwd file' words = .ok image) ↔
          ∃ front file' back, file :: rest = front ++ file' :: back ∧
            (∀ passed ∈ front, ∃ e, ofPath tree cwd passed words = .error e) ∧
            ofPath tree cwd file' words = .ok image := by
        constructor
        · rintro ⟨front, file', back, rfl, hfront, hrun⟩
          exact ⟨file :: front, file', back, rfl, List.forall_mem_cons.2 ⟨⟨e, hfile⟩, hfront⟩, hrun⟩
        · rintro ⟨front, file', back, hfiles, hfront, hrun⟩
          cases front with
          | nil =>
            cases hfiles
            cases hfile.symm.trans hrun
          | cons first more =>
            cases hfiles
            exact ⟨more, file', back, rfl, (List.forall_mem_cons.1 hfront).2, hrun⟩
      simp only
      split
      · exact ih.trans hskip
      · exact ih.trans hskip

theorem toText_localPrograms (dir : Path) :
    ∃ front, (Compiler.localPrograms dir).toText = front ++ ".bin".toList := by
  have hjoin : Text.joinWith '/' (Compiler.localPrograms dir).parts =
      Text.joinWith '/' (dir.child "node_modules".toList).parts ++ '/' :: ".bin".toList :=
    Text.joinWith_append (by simp [Path.child]) (List.cons_ne_nil _ _)
  rw [Path.toText]
  split
  · rw [Path.partsText_of_ne_nil (by simp [Compiler.localPrograms, Path.child]), hjoin,
      List.append_cons]
    exact ⟨_, rfl⟩
  · rw [hjoin, List.append_cons, ← List.append_assoc]
    exact ⟨_, rfl⟩

theorem inDirectory_localPrograms (dir : Path) (name : Text) :
    inDirectory (Octets.ofText (Compiler.localPrograms dir).toText) (Octets.ofText name) =
      Octets.ofText ((Compiler.localPrograms dir).toText ++ '/' :: name) := by
  obtain ⟨front, hown⟩ := toText_localPrograms dir
  have hlast : (Octets.ofText (Compiler.localPrograms dir).toText).getLast? = some 'n' := by
    rw [hown, Octets.ofText_append, List.getLast?_append]
    rfl
  have hne : Octets.ofText (Compiler.localPrograms dir).toText ≠ [] := by
    intro hnil
    rw [hnil] at hlast
    cases hlast
  rw [inDirectory, if_neg hne, hlast, if_neg (by decide), Octets.ofText_append,
    Octets.ofText_cons (by decide)]

/-- A program without a slash in its name is looked for among the programs of the package first. -/
theorem candidates_searchPath {dir : Path} {name : Text} (outer : Option Text)
    (hcolon : ':' ∉ (Compiler.localPrograms dir).toText) (hslash : '/' ∉ name) :
    ∃ rest, candidates (Octets.ofText (Compiler.searchPath dir outer)) (Octets.ofText name) =
      Octets.ofText ((Compiler.localPrograms dir).toText ++ '/' :: name) :: rest := by
  have hname : (Octets.ofText name).contains '/' = false := by
    rw [List.contains_eq_mem, decide_eq_false_iff_not]
    exact fun h => hslash (Octets.mem_of_mem_ofText (by decide) h)
  have hown : ':' ∉ Octets.ofText (Compiler.localPrograms dir).toText := fun h =>
    hcolon (Octets.mem_of_mem_ofText (by decide) h)
  have hfirst : ∃ rest, Text.splitOn ':' (Octets.ofText (Compiler.searchPath dir outer)) =
      Octets.ofText (Compiler.localPrograms dir).toText :: rest := by
    rw [Compiler.searchPath.eq_def]
    split
    · exact ⟨[], Text.splitOn_of_not_mem hown⟩
    · exact ⟨[], Text.splitOn_of_not_mem hown⟩
    · rw [Octets.ofText_append, Octets.ofText_cons (by decide), Text.splitOn_append_cons hown]
      exact ⟨_, rfl⟩
  obtain ⟨rest, hrest⟩ := hfirst
  rw [candidates, hname, if_neg Bool.false_ne_true, hrest, List.map_cons, inDirectory_localPrograms]
  exact ⟨_, rfl⟩

end Shell.Image

/-! ## A launch -/

namespace Program

open Shell

variable {host : Host} {l : Launch} {cwd spot : Spot} {tree dir : Folder} {image : Image}

/-- What a program that was started comes to: what it wrote has to be text. -/
def ended (o : Shell.Outcome) : Except Fault Outcome :=
  match Utf8.decode (Octets.toBytes o.output) with
  | none => .error .undecodable
  | some t => .ok ⟨o.code, Text.asRead t⟩

/-- A program that is found is started in its directory. -/
theorem launcher_of_firstOf (hwords : l.fault? host.halves = none)
    (hdir : tree.stat cwd l.cwd = .ok (spot, .dir dir))
    (hfirst : Image.firstOf tree spot (l.words.map Octets.ofText) none .noEntry
      (Image.candidates (Octets.ofText l.searchPath) ((l.words.map Octets.ofText).headD [])) =
        .ok image) :
    launcher host l cwd tree =
      (ended (Shell.launch image (environment host l) tree spot),
        (Shell.launch image (environment host l) tree spot).tree) := by
  rw [launcher, hwords]
  simp only [hdir, hfirst, ended]
  generalize Shell.launch image (environment host l) tree spot = o
  cases Utf8.decode (Octets.toBytes o.output) <;> rfl

/-- A launch starts a program that can be run, or else fails and changes nothing. -/
theorem launcher_cases (host : Host) (l : Launch) (cwd : Spot) (tree : Folder) :
    (∃ f, launcher host l cwd tree = (.error f, tree)) ∨
      ∃ spot dir image, tree.stat cwd l.cwd = .ok (spot, .dir dir) ∧
        Image.firstOf tree spot (l.words.map Octets.ofText) none .noEntry
          (Image.candidates (Octets.ofText l.searchPath)
            ((l.words.map Octets.ofText).headD [])) = .ok image ∧
        launcher host l cwd tree =
          (ended (Shell.launch image (environment host l) tree spot),
            (Shell.launch image (environment host l) tree spot).tree) := by
  cases hwords : l.fault? host.halves with
  | some f => exact Or.inl ⟨f, by rw [launcher, hwords]⟩
  | none =>
    cases hdir : tree.stat cwd l.cwd with
    | error e => exact Or.inl ⟨_, by rw [launcher, hwords]; simp only [hdir]; rfl⟩
    | ok found =>
      obtain ⟨spot, entry⟩ := found
      cases entry with
      | file content mode => exact Or.inl ⟨_, by rw [launcher, hwords]; simp only [hdir]; rfl⟩
      | dir inner =>
        cases hfirst : Image.firstOf tree spot (l.words.map Octets.ofText) none .noEntry
            (Image.candidates (Octets.ofText l.searchPath)
              ((l.words.map Octets.ofText).headD [])) with
        | error e =>
          exact Or.inl ⟨_, by rw [launcher, hwords]; simp only [hdir, hfirst]; rfl⟩
        | ok image =>
          exact Or.inr ⟨spot, inner, image, rfl, hfirst, launcher_of_firstOf hwords hdir hfirst⟩

/-- What the package installs under the name of the program is started, whatever else is on the
search path. -/
theorem launcher_own {c : Compiler} {own : Path} {name : Text} {args : List Text} {inner : Folder}
    (hcolon : ':' ∉ (Compiler.localPrograms own).toText) (hslash : '/' ∉ name)
    (hl : c.launchIn own (name :: args) = l) (hwords : l.fault? host.halves = none)
    (hdir : tree.stat cwd own = .ok (spot, .dir inner))
    (hown : Image.ofPath tree spot
      (Octets.ofText ((Compiler.localPrograms own).toText ++ '/' :: name))
      ((name :: args).map Octets.ofText) = .ok image) :
    launcher host l cwd tree =
      (ended (Shell.launch image (environment host l) tree spot),
        (Shell.launch image (environment host l) tree spot).tree) := by
  subst hl
  obtain ⟨rest, hfiles⟩ := Image.candidates_searchPath c.voice.host.searchPath hcolon hslash
  exact launcher_of_firstOf hwords hdir
    (Image.firstOf_eq_ok_iff.2 ⟨[], _, rest, hfiles, nofun, hown⟩)

/-- What is no text stops a run, with force as well as without. -/
theorem garbled_stops {g : Generator} {s : Settings} {σ τ : Session}
    (hlauncher : g.compiler.launcher = launcher g.compiler.voice.host)
    (hrun : (g.approach s).outcome σ = (.ok l, τ))
    (hwords : l.fault? g.compiler.voice.host.halves = none)
    (hdir : τ.tree.stat (τ.spot g.compiler.voice.host) l.cwd = .ok (spot, .dir dir))
    (hfirst : Image.firstOf τ.tree spot (l.words.map Octets.ofText) none .noEntry
      (Image.candidates (Octets.ofText l.searchPath) ((l.words.map Octets.ofText).headD [])) =
        .ok image)
    (hgarbled : Utf8.decode (Octets.toBytes (Shell.launch image
      (environment g.compiler.voice.host l) τ.tree spot).output) = none) :
    ((g.attempt s).outcome σ).1 = .error .undecodable := by
  refine Generator.unheard_stops hrun id ?_
  rw [hlauncher, launcher_of_firstOf hwords hdir hfirst, ended, hgarbled]

end Program
end AmbientBundle
