import AmbientBundle.Proofs.FileTree.Making
import AmbientBundle.Proofs.FileTree.MirrorListing
import AmbientBundle.Proofs.Generate.Ground
import AmbientBundle.Proofs.Limits
import AmbientBundle.Proofs.Lockstep
import AmbientBundle.Proofs.Scratch

/-!
# Sessions side by side

Two runs are *twins* while their trees mirror each other, their working directories are both there
or both gone, and their reports go to veiled files only.  Reports and changes that mirror each
other keep them twins.

A run begins with whatever an earlier run left in its scratch directory, so at first the trees
mirror each other off that directory only.  Making the directory anew removes the difference
(`lockstep_reset`): both directories are empty afterwards, or neither could be made.  All this is on
a host without limits, since two directories that differ may be differently deep.
-/

namespace AmbientBundle

namespace Session

/-- Sessions of two runs that go side by side.  `P` says which places correspond, and `K` and `K'`
which files are veiled on either side. -/
structure Twins (host : Host) (P : List Text → List Text → Prop) (K K' : List Text → Prop)
    (σ σ' : Session) : Prop where
  /-- The trees mirror each other. -/
  trees : σ.tree.Mirrors P (fun ns ms => K ns ∨ K' ms) σ'.tree
  /-- The working directory is there for both or for neither. -/
  lost : P host.cwd.parts host.cwd.parts → (σ.lost = 0 ↔ σ'.lost = 0)
  /-- Reports go to veiled files on one side. -/
  veiled : ∀ ns, σ.Writes ns → K ns
  /-- And on the other. -/
  veiled' : ∀ ns, σ'.Writes ns → K' ns

namespace Twins

variable {host : Host} {P : List Text → List Text → Prop} {K K' : List Text → Prop}
  {σ σ' : Session}

theorem stableOn : StableOn (Twins host P K K') := by
  intro s s' t t' h hrep hrep'
  refine ⟨⟨fun hns => ?_, fun hns hclear => ?_⟩, fun hcwd => ?_, fun ns hns => ?_, fun ns hns => ?_⟩
  · exact (hrep.shape _).symm.trans ((h.trees.kinds hns).trans (hrep'.shape _))
  · rw [hrep.look _ fun hw => hclear (Or.inl (h.veiled _ hw)),
      hrep'.look _ fun hw => hclear (Or.inr (h.veiled' _ hw))]
    exact h.trees.looks hns hclear
  · rw [hrep.lost, hrep'.lost]
    exact h.lost hcwd
  · exact h.veiled ns ((hrep.writes_iff ns).1 hns)
  · exact h.veiled' ns ((hrep'.writes_iff ns).1 hns)

/-- Nothing counts but the trees, the working directory and the log files. -/
theorem congr {τ τ' : Session} (h : Twins host P K K' σ σ')
    (hσ : τ.tree = σ.tree ∧ τ.lost = σ.lost ∧ τ.journal = σ.journal)
    (hσ' : τ'.tree = σ'.tree ∧ τ'.lost = σ'.lost ∧ τ'.journal = σ'.journal) :
    Twins host P K K' τ τ' := by
  obtain ⟨htree, hlost, hjournal⟩ := hσ
  obtain ⟨htree', hlost', hjournal'⟩ := hσ'
  refine ⟨?_, fun hcwd => ?_, fun ns hns => h.veiled ns ?_, fun ns hns => h.veiled' ns ?_⟩
  · rw [htree, htree']
    exact h.trees
  · rw [hlost, hlost']
    exact h.lost hcwd
  · rwa [Session.Writes, hjournal] at hns
  · rwa [Session.Writes, hjournal'] at hns

theorem withTree (h : Twins host P K K' σ σ') {tree tree' : Folder}
    (htrees : tree.Mirrors P (fun ns ms => K ns ∨ K' ms) tree') :
    Twins host P K K' (σ.withTree host tree) (σ'.withTree host tree') where
  trees := htrees
  lost := by
    intro hcwd
    have hmissing : tree.missing host.cwd.parts = 0 ↔ tree'.missing host.cwd.parts = 0 := by
      rw [Folder.missing_eq_zero_iff, Folder.missing_eq_zero_iff, ← Folder.kindAt_eq_dir_iff,
        ← Folder.kindAt_eq_dir_iff, htrees.kinds hcwd]
    rw [Session.withTree, Session.withTree]
    simp only [Nat.max_eq_zero_iff, h.lost hcwd, hmissing]
  veiled := fun ns hns => h.veiled ns (writes_withTree hns).1
  veiled' := fun ns hns => h.veiled' ns (writes_withTree hns).1

end Twins

/-- Sessions whose scratch directories are in use and marked alike. -/
def SameMark (D D' : Path) (σ σ' : Session) : Prop :=
  ∃ emptied, σ.scratch = some ⟨D, emptied⟩ ∧ σ'.scratch = some ⟨D', emptied⟩

theorem SameMark.marked {D D' : Path} {σ σ' : Session} (h : SameMark D D' σ σ') (emptied : Bool) :
    SameMark D D' (Scratch.marked emptied σ) (Scratch.marked emptied σ') := by
  obtain ⟨old, hσ, hσ'⟩ := h
  exact ⟨emptied, by rw [Scratch.marked, hσ]; rfl, by rw [Scratch.marked, hσ']; rfl⟩

/-- A session with a directory or nothing at a path. -/
def Vacant (host : Host) (D : Path) (σ : Session) : Prop :=
  σ.tree.isDir (σ.spot host) D = true ∨ σ.tree.look D.parts = none

theorem stable_missing {place : List Text} : Stable fun σ => σ.tree.look place = none := by
  intro σ τ hσ hrep
  have hkind : τ.tree.kindAt place = σ.tree.kindAt place := (hrep.shape place).symm
  rw [← Folder.kindAt_eq_none_iff, hkind, Folder.kindAt_eq_none_iff]
  exact hσ

theorem stable_vacant {host : Host} {D : Path} (hD : D.Settled) : Stable (Vacant host D) := by
  intro σ τ hσ hrep
  rcases hσ with hdir | hnone
  · have hkind : τ.tree.kindAt D.parts = σ.tree.kindAt D.parts := (hrep.shape D.parts).symm
    rw [Folder.isDir_iff hD, ← Folder.kindAt_eq_dir_iff, ← hkind, Folder.kindAt_eq_dir_iff] at hdir
    exact Or.inl ((Folder.isDir_iff hD).2 hdir)
  · exact Or.inr (stable_missing σ τ hnone hrep)

/-- A session with nothing below a path. -/
def Hollow (D : Path) (σ : Session) : Prop := ∀ ms, ms ≠ [] → σ.tree.look (D.parts ++ ms) = none

theorem stable_hollow {D : Path} : Stable (Hollow D) :=
  fun σ τ hσ hrep ms hms => stable_missing σ τ (hσ ms hms) hrep

/-- A session with an empty directory at a path. -/
def Bare (D : Path) (σ : Session) : Prop := σ.tree.EmptyAt D.parts

theorem stable_bare {D : Path} : Stable (Bare D) := by
  intro σ τ hσ hrep
  refine ⟨?_, stable_hollow σ τ hσ.2 hrep⟩
  have hkind : τ.tree.kindAt D.parts = σ.tree.kindAt D.parts := (hrep.shape D.parts).symm
  rw [← Folder.kindAt_eq_dir_iff, hkind, Folder.kindAt_eq_dir_iff]
  exact hσ.1

theorem StableOn.and {R T : Session → Session → Prop} (hR : StableOn R) (hT : StableOn T) :
    StableOn fun σ σ' => R σ σ' ∧ T σ σ' := fun s s' t t' h hrep hrep' =>
  ⟨hR s s' t t' h.1 hrep hrep', hT s s' t t' h.2 hrep hrep'⟩

theorem Stable.both {I J : Session → Prop} (hI : Stable I) (hJ : Stable J) :
    StableOn fun σ σ' => I σ ∧ J σ' := fun s s' t t' h hrep hrep' =>
  ⟨hI s t h.1 hrep, hJ s' t' h.2 hrep'⟩

theorem stableOn_sameMark {D D' : Path} : StableOn (SameMark D D') := by
  rintro s s' t t' ⟨emptied, hs, hs'⟩ hrep hrep'
  exact ⟨emptied, hrep.scratch.trans hs, hrep'.scratch.trans hs'⟩

end Session

/-! ## The steps on the scratch directory -/

namespace Scratch

open Folder (ClearedAlike Cleared)

/-- Two directories are both made, and the sessions are related by `S` once they are marked, or
neither can be made, and the sessions stay related by `R`. -/
def MadeAlike (v : Voice) (D D' : Path) (R S : Session → Session → Prop) : Prop :=
  ∀ σ σ', R σ σ' → ∀ r r', σ.tree.makeDirs (σ.spot v.host) D = r →
    σ'.tree.makeDirs (σ'.spot v.host) D' = r' →
    Agree (fun _ _ => R (σ.withTree v.host r.2) (σ'.withTree v.host r'.2))
      (fun _ _ => S (marked false (σ.withTree v.host r.2)) (marked false (σ'.withTree v.host r'.2)))
      r.1 r'.1

section

variable {v : Voice} {D D' : Path} {R S F : Session → Session → Prop}

variable (hfree : v.host.Boundless) (hclean : D.fault? v.host.halves = none)
  (hclean' : D'.fault? v.host.halves = none)

include hfree hclean hclean'

/-- What clearing two directories does, given what removing them does. -/
theorem lockstep_clear (hR : Session.StableOn R) (hS : Session.StableOn S) (hF : Session.StableOn F)
    (hremove : ∀ σ σ', R σ σ' → ∀ r r', σ.tree.removeTree (σ.spot v.host) D = r →
      σ'.tree.removeTree (σ'.spot v.host) D' = r' → ClearedAlike r.1 r'.1 ∧
        F (σ.withTree v.host r.2) (σ'.withTree v.host r'.2) ∧
        S (marked true (σ.withTree v.host r.2)) (marked true (σ'.withTree v.host r'.2))) :
    Action.Lockstep R (clear v D) (clear v D') (fun _ _ => S) F := by
  have hdone : Action.Lockstep (fun σ σ' => F σ σ' ∧ S (marked true σ) (marked true σ'))
      (do
        mark true
        v.verbose "\"tmp\" directory was cleaned!")
      (do
        mark true
        v.verbose "\"tmp\" directory was cleaned!") (fun _ _ => S) F :=
    .bind (Q := fun _ _ => S) (.modify fun _ _ h => h.2) fun _ _ => .say hS _ _ _ _ _ _
  rw [clear, clear, hfree.removeTree, hfree.removeTree]
  refine .bind (.say hR _ _ _ _ _ _) fun _ _ => .bind (.checkPath hclean hclean') fun _ _ => .bind
    (Q := fun r r' σ σ' => ClearedAlike r r' ∧ F σ σ' ∧ S (marked true σ) (marked true σ'))
    (.onTree fun σ σ' h => hremove σ σ' h _ _ rfl rfl) fun r r' => ?_
  refine .assume fun halike => ?_
  rcases halike with ⟨hr, hr'⟩ | ⟨e, e', rfl, rfl, he, he'⟩
  · cases r with
    | ok u =>
      cases r' with
      | ok u' => exact hdone
      | error e' =>
        simp only [hr' e' rfl, ne_eq, not_true_eq_false, if_false]
        exact hdone
    | error e =>
      cases r' with
      | ok u' =>
        simp only [hr e rfl, ne_eq, not_true_eq_false, if_false]
        exact hdone
      | error e' =>
        simp only [hr e rfl, hr' e' rfl, ne_eq, not_true_eq_false, if_false]
        exact hdone
  · simp only [ne_eq, he, he', not_false_eq_true, if_true]
    refine Action.Lockstep.weaken (R := F) (Q := fun _ _ => S) (E := F) ?_ (fun _ _ h => h.1)
      (fun _ _ _ _ => id) fun _ _ => id
    exact .bind (.say hF _ _ _ _ _ _) fun _ _ => .bind (.say hF _ _ _ _ _ _) fun _ _ =>
      .bind (Q := fun _ _ _ _ => False) (.throw rfl fun _ _ => id) fun _ _ _ _ h => h.elim

/-- What two tries do, given what making the directories does. -/
theorem lockstep_attempt (hR : Session.StableOn R) (hS : Session.StableOn S)
    (hmake : MadeAlike v D D' R S) :
    Action.Lockstep R (attempt v D) (attempt v D')
      (fun made made' σ σ' => made = made' ∧ if made then S σ σ' else R σ σ') F := by
  rw [attempt, attempt, hfree.makeDirs, hfree.makeDirs]
  refine .bind (.checkPath hclean hclean') fun _ _ => .bind
    (Q := fun r r' σ σ' => Agree (fun _ _ => R σ σ')
      (fun _ _ => S (marked false σ) (marked false σ')) r r')
    (.onTree fun σ σ' h => hmake σ σ' h _ _ rfl rfl) fun r r' => ?_
  cases r with
  | ok u =>
    cases r' with
    | ok u' =>
      exact .bind (Q := fun _ _ => S) (.modify fun _ _ h => h) fun _ _ =>
        .bind (.say hS _ _ _ _ _ _) fun _ _ => .pure fun _ _ h => ⟨rfl, h⟩
    | error e' => exact fun _ _ h => h.elim
  | error e =>
    cases r' with
    | ok u' => exact fun _ _ h => h.elim
    | error e' =>
      refine Action.Lockstep.weaken (R := R) (E := F)
        (Q := fun made made' σ σ' => made = made' ∧ if made then S σ σ' else R σ σ') ?_
        (fun _ _ h => h) (fun _ _ _ _ => id) fun _ _ => id
      exact .bind (.say hR _ _ _ _ _ _) fun _ _ => .bind (.say hR _ _ _ _ _ _) fun _ _ =>
        .pure fun _ _ h => ⟨rfl, h⟩

/-- What making two directories does, however often it is tried. -/
theorem lockstep_make (hR : Session.StableOn R) (hS : Session.StableOn S)
    (hmake : MadeAlike v D D' R S)
    (hwait : Action.Lockstep R (wait v.host) (wait v.host) (fun _ _ => R) R) (patience : Patience) :
    Action.Lockstep R (make v patience D) (make v patience D') (fun _ _ => S) R := by
  have htry := lockstep_attempt (F := R) hfree hclean hclean' hR hS hmake
  have hloop (left : Nat) : Action.Lockstep R (makeWith v patience D left)
      (makeWith v patience D' left) (fun _ _ => S) R := by
    induction left with
    | zero =>
      rw [makeWith, makeWith]
      refine .bind htry fun made made' => .assume fun hmade => ?_
      subst hmade
      cases made with
      | true => exact .pure fun _ _ => id
      | false => exact .bind (.say hR _ _ _ _ _ _) fun _ _ => .throw rfl fun _ _ => id
    | succ left ih =>
      rw [makeWith, makeWith]
      refine .bind htry fun made made' => .assume fun hmade => ?_
      subst hmade
      cases made with
      | true => exact .pure fun _ _ => id
      | false =>
        simp only [Bool.false_eq_true, if_false]
        cases patience.delay.milliseconds with
        | error how =>
          exact .bind (Q := fun _ _ _ _ => False) (.throw rfl fun _ _ => id) fun _ _ _ _ h => h.elim
        | ok ms =>
          exact .bind (.say hR _ _ _ _ _ _) fun _ _ => .bind hwait fun _ _ => ih
  rw [make, make]
  exact .bind (.say hR _ _ _ _ _ _) fun _ _ => hloop _

end

end Scratch

/-! ## Starting with an empty scratch directory -/

namespace Session

/-- Sessions that are twins off their scratch directories, where each has a directory or nothing. -/
def Near (host : Host) (P : List Text → List Text → Prop) (K K' : List Text → Prop) (D D' : Path)
    (σ σ' : Session) : Prop :=
  Twins host (Off P D.parts) (fun ns => K ns ∨ D.parts <+: ns) (fun ns => K' ns ∨ D'.parts <+: ns)
    σ σ' ∧ Vacant host D σ ∧ Vacant host D' σ'

section

variable {host : Host} {P : List Text → List Text → Prop} {K K' : List Text → Prop} {D D' : Path}
  {σ σ' : Session}

theorem stableOn_near (hD : D.Settled) (hD' : D'.Settled) : StableOn (Near host P K K' D D') :=
  Twins.stableOn.and ((stable_vacant hD).both (stable_vacant hD'))

theorem Near.of_twins (h : Twins host P K K' σ σ') (hvacant : Vacant host D σ)
    (hvacant' : Vacant host D' σ') : Near host P K K' D D' σ σ' := by
  refine ⟨⟨⟨fun hns => h.trees.kinds hns.1, fun hns hclear => h.trees.looks hns.1 fun hK => hclear ?_⟩,
    fun hcwd => h.lost hcwd.1, fun ns hns => Or.inl (h.veiled ns hns),
    fun ns hns => Or.inl (h.veiled' ns hns)⟩, hvacant, hvacant'⟩
  exact hK.imp Or.inl Or.inl

theorem Vacant.not_hasFile {τ : Folder} (hD : D.Settled) (hne : D.parts ≠ []) (h : Vacant host D σ)
    (hτ : (σ.tree.removeTree (σ.spot host) D).2 = τ) {ns : List Text} (hns : D.parts <+: ns) :
    τ.hasFile ns ≠ true := by
  rw [Ne, Folder.hasFile_iff]
  rintro ⟨c, mode, hfile⟩
  have hnone := Folder.look_removeTree_below hD hne h hns
  rw [hτ, Folder.look_eq_none_iff, hfile] at hnone
  cases hnone

/-- Sessions that are near become twins when their scratch directories are removed. -/
theorem Near.removed (hP : Mirror P) (hD : D.Facing P D') (hne : D.parts ≠ [])
    (hne' : D'.parts ≠ []) (h : Near host P K K' D D' σ σ') {r r' : Except OsFault Unit × Folder}
    (hr : σ.tree.removeTree (σ.spot host) D = r) (hr' : σ'.tree.removeTree (σ'.spot host) D' = r') :
    Folder.ClearedAlike r.1 r'.1 ∧ Twins host P K K' (σ.withTree host r.2) (σ'.withTree host r'.2) := by
  obtain ⟨htwins, hat, hat'⟩ := h
  have hsides : σ.tree.Mirrors (Off P D.parts) (fun ns ms => K ns ∨ K' ms) σ'.tree := by
    refine ⟨htwins.trees.kinds, fun {ns ms} hns hclear => htwins.trees.looks hns ?_⟩
    rintro ((hK | hbelow) | hK' | hbelow)
    · exact hclear (Or.inl hK)
    · exact hns.2 hbelow
    · exact hclear (Or.inr hK')
    · exact hns.2 ((hP.prefix_iff hD.places hns.1).2 hbelow)
  obtain ⟨halike, htrees⟩ := Folder.removeTree_near hP hD hne hsides hat hat'
  have hbelow {ns : List Text} (hns : D.parts <+: ns) := Folder.look_removeTree_below hD.left hne hat hns
  have hbelow' {ns : List Text} (hns : D'.parts <+: ns) :=
    Folder.look_removeTree_below hD.right hne' hat' hns
  rw [hr, hr'] at halike htrees
  rw [hr] at hbelow
  rw [hr'] at hbelow'
  refine ⟨halike, htrees, fun hcwd => ?_, fun ns hns => ?_, fun ns hns => ?_⟩
  · by_cases hinside : D.parts <+: host.cwd.parts
    · -- The working directory has gone with the scratch directory, on both sides.
      have hmissing : r.2.missing host.cwd.parts ≠ 0 := by
        rw [Ne, Folder.missing_eq_zero_iff, hbelow hinside]
        exact fun h => nomatch h
      have hmissing' : r'.2.missing host.cwd.parts ≠ 0 := by
        rw [Ne, Folder.missing_eq_zero_iff, hbelow' ((hP.prefix_iff hD.places hcwd).1 hinside)]
        exact fun h => nomatch h
      simp only [Session.withTree, Nat.max_eq_zero_iff, hmissing, hmissing', and_false]
    · have hlost := htwins.lost ⟨hcwd, hinside⟩
      have hmissing : r.2.missing host.cwd.parts = 0 ↔ r'.2.missing host.cwd.parts = 0 := by
        rw [Folder.missing_eq_zero_iff, Folder.missing_eq_zero_iff, ← Folder.kindAt_eq_dir_iff,
          ← Folder.kindAt_eq_dir_iff, htrees.kinds hcwd]
      simp only [Session.withTree, Nat.max_eq_zero_iff, hlost, hmissing]
  · obtain ⟨hwrites, hfile⟩ := writes_withTree hns
    exact (htwins.veiled ns hwrites).resolve_right fun h => hat.not_hasFile hD.left hne (by rw [hr]) h hfile
  · obtain ⟨hwrites, hfile⟩ := writes_withTree hns
    exact (htwins.veiled' ns hwrites).resolve_right fun h =>
      hat'.not_hasFile hD.right hne' (by rw [hr']) h hfile

end
end Session

namespace Scratch

open Session (Twins SameMark Near Hollow Bare)

section

variable {v : Voice} {P : List Text → List Text → Prop} {K K' : List Text → Prop} {D D' : Path}

/-- Twins with their scratch directories in use. -/
def Paired (host : Host) (P : List Text → List Text → Prop) (K K' : List Text → Prop) (D D' : Path)
    (σ σ' : Session) : Prop :=
  Twins host P K K' σ σ' ∧ SameMark D D' σ σ'

theorem stableOn_paired : Session.StableOn (Paired v.host P K K' D D') :=
  Twins.stableOn.and Session.stableOn_sameMark

theorem hollow_makeDirs {σ : Session} (hD : D.Settled) (h : Hollow D σ) :
    Hollow D (σ.withTree v.host (σ.tree.makeDirs (σ.spot v.host) D).2) :=
  fun ms hms => (Folder.look_makeDirs_below hD hms).trans (h ms hms)

/-- Empty places of twins are both made directories, or neither is. -/
theorem madeAlike_hollow (hP : Mirror P) (hD : D.Facing P D') :
    MadeAlike v D D' (fun σ σ' => Paired v.host P K K' D D' σ σ' ∧ Hollow D σ ∧ Hollow D' σ')
      fun σ σ' => Paired v.host P K K' D D' σ σ' ∧ Bare D σ ∧ Bare D' σ' := by
  rintro σ σ' ⟨⟨htwins, hmark⟩, hhollow, hhollow'⟩ r r' rfl rfl
  have hhollow := hollow_makeDirs (v := v) hD.left hhollow
  have hhollow' := hollow_makeDirs (v := v) hD.right hhollow'
  have hfollow : Folder.Follow P (fun ns ms => K ns ∨ K' ms)
      (σ.tree.makeDirs (σ.spot v.host) D) (σ'.tree.makeDirs (σ'.spot v.host) D') :=
    Folder.makeDirs_agree hP htwins.trees hD
  obtain ⟨hresult, htrees⟩ := hfollow
  have htwins := htwins.withTree htrees
  rcases hresult.cases with ⟨_, _, hok, hok', -⟩ | ⟨e, e', herr, herr', -⟩
  · have hdir := (Folder.isDir_iff hD.left).1 ((Folder.makeDirs_eq_ok_iff hD.left).1 hok)
    have hdir' := (Folder.isDir_iff hD.right).1 ((Folder.makeDirs_eq_ok_iff hD.right).1 hok')
    rw [hok, hok']
    exact ⟨⟨htwins.congr ⟨rfl, rfl, rfl⟩ ⟨rfl, rfl, rfl⟩,
      Session.SameMark.marked hmark false⟩, ⟨hdir.2, hhollow⟩, hdir'.2, hhollow'⟩
  · rw [herr, herr']
    exact ⟨⟨htwins, hmark⟩, hhollow, hhollow'⟩

variable (hfree : v.host.Boundless) (hP : Mirror P) (hD : D.Facing P D')
  (hclean : D.fault? v.host.halves = none) (hclean' : D'.fault? v.host.halves = none)
  (hne : D.parts ≠ [])

include hfree hP hD hclean hclean' hne

theorem lockstep_clear_near (hne' : D'.parts ≠ []) :
    Action.Lockstep (fun σ σ' => Near v.host P K K' D D' σ σ' ∧ SameMark D D' σ σ') (clear v D)
      (clear v D') (fun _ _ σ σ' => Paired v.host P K K' D D' σ σ' ∧ Hollow D σ ∧ Hollow D' σ')
      (Paired v.host P K K' D D') := by
  refine lockstep_clear hfree hclean hclean'
    ((Session.stableOn_near hD.left hD.right).and Session.stableOn_sameMark)
    (stableOn_paired.and (Session.stable_hollow.both Session.stable_hollow)) stableOn_paired ?_
  rintro σ σ' ⟨hnear, hmark⟩ r r' hr hr'
  obtain ⟨halike, htwins⟩ := hnear.removed hP hD hne hne' hr hr'
  refine ⟨halike, ⟨htwins, hmark⟩, ⟨htwins.congr ⟨rfl, rfl, rfl⟩ ⟨rfl, rfl, rfl⟩,
    Session.SameMark.marked hmark true⟩, fun ms _ => ?_, fun ms _ => ?_⟩
  · rw [← hr]
    exact Folder.look_removeTree_below hD.left hne hnear.2.1 (List.prefix_append _ _)
  · rw [← hr']
    exact Folder.look_removeTree_below hD.right hne' hnear.2.2 (List.prefix_append _ _)

/-- Two runs that are near have empty scratch directories when these are made anew. -/
theorem lockstep_reset (hne' : D'.parts ≠ []) (hstill : v.host.Still) :
    Action.Lockstep (fun σ σ' => Near v.host P K K' D D' σ σ' ∧ SameMark D D' σ σ') (reset v {} D)
      (reset v {} D') (fun _ _ σ σ' => Paired v.host P K K' D D' σ σ' ∧ Bare D σ ∧ Bare D' σ')
      (Paired v.host P K K' D D') := by
  have hmake : Action.Lockstep
      (fun σ σ' => Paired v.host P K K' D D' σ σ' ∧ Hollow D σ ∧ Hollow D' σ') (make v {} D)
      (make v {} D') (fun _ _ σ σ' => Paired v.host P K K' D D' σ σ' ∧ Bare D σ ∧ Bare D' σ')
      (fun σ σ' => Paired v.host P K K' D D' σ σ' ∧ Hollow D σ ∧ Hollow D' σ') := by
    refine lockstep_make hfree hclean hclean'
      (stableOn_paired.and (Session.stable_hollow.both Session.stable_hollow))
      (stableOn_paired.and (Session.stable_bare.both Session.stable_bare)) (madeAlike_hollow hP hD)
      (.modify fun σ σ' h => ?_) _
    rw [hstill, hstill]
    have htwins := h.1.1.withTree h.1.1.trees
    exact ⟨⟨htwins.congr ⟨rfl, rfl, rfl⟩ ⟨rfl, rfl, rfl⟩, h.1.2⟩, h.2⟩
  rw [reset, reset]
  refine .bind (.say ((Session.stableOn_near hD.left hD.right).and Session.stableOn_sameMark) _ _ _ _ _ _)
    fun _ _ => .bind (lockstep_clear_near hfree hP hD hclean hclean' hne hne') fun _ _ => ?_
  exact hmake.weaken (fun _ _ => id) (fun _ _ _ _ => id) fun _ _ h => h.1

/-- Twins stay twins when their scratch directories are cleared. -/
theorem lockstep_clear_paired :
    Action.Lockstep (Paired v.host P K K' D D') (clear v D) (clear v D')
      (fun _ _ => Paired v.host P K K' D D') (Paired v.host P K K' D D') := by
  refine lockstep_clear hfree hclean hclean' stableOn_paired stableOn_paired stableOn_paired ?_
  rintro σ σ' ⟨htwins, hmark⟩ r r' rfl rfl
  have hfollow : Folder.Follow P (fun ns ms => K ns ∨ K' ms)
      (σ.tree.removeTree (σ.spot v.host) D) (σ'.tree.removeTree (σ'.spot v.host) D') :=
    Folder.removeTree_agree hP htwins.trees hD hne
  have htwins := htwins.withTree hfollow.2
  exact ⟨hfollow.clearedAlike, ⟨htwins, hmark⟩,
    htwins.congr ⟨rfl, rfl, rfl⟩ ⟨rfl, rfl, rfl⟩, Session.SameMark.marked hmark true⟩

end
end Scratch
end AmbientBundle
