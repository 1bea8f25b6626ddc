import AmbientBundle.Proofs.Generate.Course

/-!
# Temporary directories of two runs

Runs without a scratch directory in their settings make temporary directories, each one its own.
What is below one of them corresponds to what is below the other, and everything outside of
temporary directories corresponds to itself (`Host.Counterpart`).  Where the directories are new,
this is a mirror of the trees, and the runs find themselves poised to work in corresponding scratch
directories (`lockstep_locate_new`).
-/

namespace AmbientBundle

/-! ## Corresponding places -/

/-- Whether a place is in a temporary directory. -/
def Host.Temporary (host : Host) (ns : List Text) : Prop :=
  ∃ k, (host.temporaryAt k).parts <+: ns

/-- Places that correspond to each other for runs with temporary directories of their own: outside
of all temporary directories a place and itself, and below their own ones what has the same names
and is treated alike on the way. -/
def Host.Counterpart (host : Host) (k k' : Nat) (ns ms : List Text) : Prop :=
  (ns = ms ∧ ¬ host.Temporary ns) ∨
    ∃ rest, ns = (host.temporaryAt k).parts ++ rest ∧ ms = (host.temporaryAt k').parts ++ rest ∧
      ∀ j, SameLimits ((host.temporaryAt k).parts ++ rest.take j)
        ((host.temporaryAt k').parts ++ rest.take j)

namespace Host

variable {host : Host} {k k' : Nat} {ns ms : List Text}

theorem Temporary.mono (h : host.Temporary ns) (hns : ns <+: ms) : host.Temporary ms := by
  obtain ⟨j, hj⟩ := h
  exact ⟨j, hj.trans hns⟩

theorem length_temporaryAt (k : Nat) :
    (host.temporaryAt k).parts.length = host.temporary.parts.length + 1 := by
  rw [temporaryAt, Path.child, List.length_append, List.length_singleton]

theorem temporary_append (k : Nat) (rest : List Text) :
    host.Temporary ((host.temporaryAt k).parts ++ rest) := ⟨k, List.prefix_append _ _⟩

/-- The way to a temporary directory is in none. -/
theorem not_temporary_take (n : Nat) : ¬ host.Temporary (host.temporary.parts.take n) := by
  rintro ⟨j, hj⟩
  have hlength := hj.length_le
  rw [length_temporaryAt, List.length_take] at hlength
  omega

theorem take_temporaryAt {n : Nat} (hn : n ≤ host.temporary.parts.length) (k : Nat)
    (rest : List Text) :
    ((host.temporaryAt k).parts ++ rest).take n = host.temporary.parts.take n := by
  rw [temporaryAt, Path.child, List.append_assoc, List.take_append_of_le_length hn]

theorem mirror_counterpart : Mirror (host.Counterpart k k') where
  take := by
    rintro ns ms (⟨rfl, hns⟩ | ⟨rest, rfl, rfl, hlimits⟩) n
    · exact Or.inl ⟨rfl, fun h => hns (h.mono (List.take_prefix _ _))⟩
    · by_cases hn : n ≤ host.temporary.parts.length
      · rw [take_temporaryAt hn, take_temporaryAt hn]
        exact Or.inl ⟨rfl, not_temporary_take n⟩
      · obtain ⟨i, rfl⟩ : ∃ i, n = host.temporary.parts.length + 1 + i :=
          Nat.exists_eq_add_of_le (by omega)
        refine Or.inr ⟨rest.take i, ?_, ?_, fun j => ?_⟩
        · rw [← length_temporaryAt k, List.take_length_add_append]
        · rw [← length_temporaryAt k', List.take_length_add_append]
        · rw [List.take_take]
          exact hlimits _
  inj := by
    rintro ns ms ns' ms' (⟨rfl, hns⟩ | ⟨rest, rfl, rfl, -⟩) (⟨rfl, hns'⟩ | ⟨rest', rfl, rfl, -⟩)
    · exact Iff.rfl
    -- What is in a temporary directory is not the same as what is in none.
    · refine ⟨fun h => absurd ?_ hns, fun h => absurd ?_ hns⟩
      · rw [h]
        exact temporary_append k rest'
      · rw [h]
        exact temporary_append k' rest'
    · refine ⟨fun h => absurd ?_ hns', fun h => absurd ?_ hns'⟩
      · rw [← h]
        exact temporary_append k rest
      · rw [← h]
        exact temporary_append k' rest
    · rw [List.append_cancel_left_eq, List.append_cancel_left_eq]
  limits := by
    rintro ns ms (⟨rfl, -⟩ | ⟨rest, rfl, rfl, hlimits⟩)
    · exact ⟨rfl, rfl⟩
    · have hwhole := hlimits rest.length
      rwa [List.take_length] at hwhole

/-- What is below one of the directories corresponds to what has the same names below the other. -/
theorem Counterpart.below {rest : List Text}
    (h : host.Counterpart k k' ((host.temporaryAt k).parts ++ rest) ms) :
    ms = (host.temporaryAt k').parts ++ rest := by
  rcases h with ⟨-, hns⟩ | ⟨rest', heq, rfl, -⟩
  · exact absurd (temporary_append k rest) hns
  · rw [List.append_cancel_left heq]

end Host

/-! ## Making the directories -/

namespace Generator

open Session (Twins Recalls Seasoned)

variable {g : Generator} {s : Settings} {file : Option (Bytes × FileMode)}
  {P : List Text → List Text → Prop} {K K' : List Text → Prop} {n n' : Nat}

/-- New temporary directories are made alike. -/
theorem lockstep_locate (htmp : s.tmp = .value .null) (hP : Mirror P)
    (hT : (g.voice.host.temporaryAt (n + 1)).Facing P (g.voice.host.temporaryAt (n' + 1))) :
    Action.Lockstep
      (fun τ τ' => Twins g.voice.host P K K' τ τ' ∧ τ.temporaries = n ∧ τ'.temporaries = n')
      (g.locate s) (g.locate s)
      (fun x y τ τ' => (x = (s.scratch g.voice.host (n + 1), s.temporary? g.voice.host (n + 1)) ∧
        y = (s.scratch g.voice.host (n' + 1), s.temporary? g.voice.host (n' + 1))) ∧
        Twins g.voice.host P K K' τ τ') (Twins g.voice.host P K K') := by
  have hstable : Session.StableOn fun τ τ' =>
      Twins g.voice.host P K K' τ τ' ∧ τ.temporaries = n ∧ τ'.temporaries = n' :=
    fun τ τ' υ υ' hτ hrep hrep' => ⟨Twins.stableOn τ τ' υ υ' hτ.1 hrep hrep',
      hrep.temporaries.trans hτ.2.1, hrep'.temporaries.trans hτ.2.2⟩
  rw [locate, Settings.scratch, Settings.scratch, Settings.temporary?, Settings.temporary?]
  simp only [htmp, Setting.toPath?, Action.ofExcept, pure_bind]
  refine .bind (.say hstable _ _ _ _ _ _) fun _ _ => .bind (Q := fun dir dir' τ τ' =>
    (dir = g.voice.host.temporaryAt (n + 1) ∧ dir' = g.voice.host.temporaryAt (n' + 1)) ∧
      Twins g.voice.host P K K' τ τ') ?_ fun dir dir' => .assume fun hdirs => ?_
  · rw [makeTemporary]
    refine .bind (Q := fun _ _ τ τ' => Twins g.voice.host P K K' τ τ' ∧ τ.temporaries = n + 1 ∧
      τ'.temporaries = n' + 1) (.modify fun τ τ' hτ => ?_) fun _ _ => .get_bind fun τ τ' hτ => ?_
    · obtain ⟨htwins, rfl, rfl⟩ := hτ
      exact ⟨htwins.congr ⟨rfl, rfl, rfl⟩ ⟨rfl, rfl, rfl⟩, rfl, rfl⟩
    · rw [hτ.2.1, hτ.2.2]
      refine .bind (Q := fun r r' υ υ' => Agree OsFault.Same (fun _ _ => True) r r' ∧
        Twins g.voice.host P K K' υ υ') (.onTree fun υ υ' hυ => ?_) fun r r' => .assume fun hr => ?_
      · obtain ⟨rfl, rfl⟩ := hυ
        have hfollow : Folder.Follow P (fun ns ms => K ns ∨ K' ms)
            (υ.tree.makeDirs (υ.spot g.voice.host) (g.voice.host.temporaryAt (n + 1)))
            (υ'.tree.makeDirs (υ'.spot g.voice.host) (g.voice.host.temporaryAt (n' + 1))) :=
          Folder.makeDirs_agree hP hτ.1.trees hT
        exact ⟨hfollow.1, hτ.1.withTree hfollow.2⟩
      · rcases hr.cases with ⟨_, _, rfl, rfl, -⟩ | ⟨e, e', rfl, rfl, hsame⟩
        · exact .pure fun _ _ hυ => ⟨⟨rfl, rfl⟩, hυ⟩
        · exact .throw (congrArg Errno.kind hsame) fun _ _ => id
  · obtain ⟨rfl, rfl⟩ := hdirs
    exact .pure fun _ _ hτ => ⟨⟨rfl, rfl⟩, hτ⟩

/-- A scratch directory in a new temporary directory is missing, also once that is made. -/
theorem vacant_made {τ : Session} (htmp : s.tmp = .value .null)
    (htemp : g.voice.host.Takes g.voice.host.temporary) {k : Nat}
    (hnew : τ.tree.look (g.voice.host.temporaryAt k).parts = none) :
    (τ.tree.makeDirs (τ.spot g.voice.host) (g.voice.host.temporaryAt k)).2.look
      (s.scratch g.voice.host k).parts = none := by
  rw [Settings.scratch, htmp]
  have hframe : Folder.Frame (fun _ => False) (· <+: (g.voice.host.temporaryAt k).parts) τ.tree
      (τ.tree.makeDirs (τ.spot g.voice.host) (g.voice.host.temporaryAt k)).2 :=
    Folder.frame_makeDirs (Host.takes_temporaryAt htemp k).settled
  rcases hframe ((g.voice.host.temporaryAt k).parts ++ [scratchName]) not_false with
    hsame | ⟨hinside, -, -⟩
  · exact hsame.trans (Folder.look_append_of_none hnew _)
  · have hlength := hinside.length_le
    rw [List.length_append, List.length_singleton] at hlength
    omega

/-- A session of a run that is about to make a temporary directory, which will be new. -/
def About (s : Settings) (host : Host) (file : Option (Bytes × FileMode)) (n : Nat) (τ : Session) :
    Prop :=
  (Recalls s host file τ ∧ τ.tree.look (host.temporaryAt (n + 1)).parts = none) ∧ τ.temporaries = n

theorem stable_about {host : Host} : Session.Stable (About s host file n) := fun τ υ hτ hrep =>
  ⟨⟨Session.stable_recalls τ υ hτ.1.1 hrep, Session.stable_missing τ υ hτ.1.2 hrep⟩,
    hrep.temporaries.trans hτ.2⟩

theorem ensures_locate_new (hs : s.Located g.voice.host) (htmp : s.tmp = .value .null)
    (htemp : g.voice.host.Takes g.voice.host.temporary) :
    (g.locate s).Ensures (About s g.voice.host file n)
      (fun _ τ => Recalls s g.voice.host file τ ∧
        τ.Vacant g.voice.host (s.scratch g.voice.host (n + 1)))
      fun _ => Seasoned s g.voice.host file := by
  have hmade {τ : Session} (hτ : Recalls s g.voice.host file τ) : Recalls s g.voice.host file
      { τ.withTree g.voice.host (τ.tree.makeDirs (τ.spot g.voice.host)
        (g.voice.host.temporaryAt (n + 1))).2 with temporaries := n + 1 } := by
    have hafter : Recalls s g.voice.host file (τ.withTree g.voice.host (τ.tree.makeDirs
        (τ.spot g.voice.host) (g.voice.host.temporaryAt (n + 1))).2) :=
      hτ.withTree _ ((Folder.fileAt_makeDirs (Host.takes_temporaryAt htemp _).settled).trans hτ.there)
    exact ⟨hafter.there, hafter.unlogged, hafter.seasoned.manifest, hafter.seasoned.scratch⟩
  have hstable : Session.Stable fun τ => Recalls s g.voice.host file τ ∧
      τ.tree.look (g.voice.host.temporaryAt (n + 1)).parts = none := fun τ υ hτ hrep =>
    ⟨Session.stable_recalls τ υ hτ.1 hrep, Session.stable_missing τ υ hτ.2 hrep⟩
  refine Action.Ensures.weaken (ensures_locate (n := n) (J := fun τ => Recalls s g.voice.host file τ ∧
    τ.Vacant g.voice.host (s.scratch g.voice.host (n + 1))) (F := Seasoned s g.voice.host file)
    hs hstable (fun τ _ hτ => ⟨hτ.1, Or.inr ?_⟩)
    (fun τ hτ _ => ⟨hmade hτ.1, Or.inr (vacant_made htmp htemp hτ.2)⟩)
    fun τ hτ _ => (hmade hτ.1).seasoned) (fun _ => id) (fun _ _ hτ => hτ.1) fun _ _ hτ => hτ.2
  rw [Settings.scratch, htmp]
  exact Folder.look_append_of_none hτ.2 _

/-- Runs that make new temporary directories are poised to work in them, or neither has made one. -/
theorem lockstep_locate_new (hs : s.Located g.voice.host) (htmp : s.tmp = .value .null)
    (htemp : g.voice.host.Takes g.voice.host.temporary) (hP : Mirror P)
    (hT : (g.voice.host.temporaryAt (n + 1)).Facing P (g.voice.host.temporaryAt (n' + 1))) :
    Action.Lockstep
      (fun τ τ' => Twins g.voice.host P K K' τ τ' ∧ About s g.voice.host file n τ ∧
        About s g.voice.host file n' τ')
      (g.locate s) (g.locate s)
      (fun x y τ τ' => (x = (s.scratch g.voice.host (n + 1), s.temporary? g.voice.host (n + 1)) ∧
        y = (s.scratch g.voice.host (n' + 1), s.temporary? g.voice.host (n' + 1))) ∧
        Poised s g.voice.host P K K' (s.scratch g.voice.host (n + 1))
          (s.scratch g.voice.host (n' + 1)) file τ τ')
      fun τ τ' => Twins g.voice.host P K K' τ τ' ∧ Seasoned s g.voice.host file τ ∧
        Seasoned s g.voice.host file τ' := by
  refine ((lockstep_locate htmp hP hT).and_ensures (ensures_locate_new (n := n) hs htmp htemp)
    (ensures_locate_new (n := n') hs htmp htemp)).weaken (fun τ τ' hτ => ?_)
      (fun x y τ τ' hτ => ?_) fun _ _ => id
  · exact ⟨⟨hτ.1, hτ.2.1.2, hτ.2.2.2⟩, hτ.2⟩
  · obtain ⟨⟨hdirs, htwins⟩, ⟨hrecalls, hvacant⟩, hrecalls', hvacant'⟩ := hτ
    exact ⟨hdirs, .of_twins htwins hvacant hvacant', hrecalls, hrecalls'⟩

end Generator
end AmbientBundle
