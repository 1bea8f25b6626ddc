import AmbientBundle.Proofs.FileTree.Making
import AmbientBundle.Proofs.Generate.Frame

/-!
# What a call does to the scratch directory

Clearing the scratch directory comes to one of three ends (`clear_cases`).  It works: nothing is
left at the path and below it, everything else is as it was, and the directory is marked as
cleared.  It is refused, and then the tree and the mark are what they were.  Or something in the
directory lies too deep: part of it is gone then, and it is still too deep, while its mark and
everything else are as they were (`Session.Torn`).

A try to make the directory has three ends as well, but it leaves no trace if it does not work
(`outcome_attempt`, `Refused.untouched`): too many directories may be missing above the path,
which is found out before any of them is made.  That is never so where a file is in the way
(`not_tooSteep_of_blocked`).

A session in which nothing has happened is `Untouched`.  The journal goes on in any case, so the
bytes of open log files are left out.
-/

namespace AmbientBundle

namespace Session

/-! ## Sessions in which nothing has happened -/

/-- A session in which nothing has happened since another one, apart from reports. -/
structure Untouched (σ₀ σ : Session) : Prop where
  /-- The tree is the very same if no log file is open. -/
  tree : σ₀.journal.files = [] → σ.tree = σ₀.tree
  /-- In any case no file or directory came or went. -/
  shape : σ₀.tree.SameShape σ.tree
  /-- No bytes changed but those of log files. -/
  look : ∀ ns, ¬ σ₀.Logs ns → σ.tree.look ns = σ₀.tree.look ns
  /-- The log files are where they were. -/
  log : σ.journal.files.map LogFile.place = σ₀.journal.files.map LogFile.place
  /-- The scratch directory is marked as it was. -/
  scratch : σ.scratch = σ₀.scratch

theorem logs_iff_place {σ : Session} {ns : List Text} :
    σ.Logs ns ↔ ns ∈ σ.journal.files.map LogFile.place :=
  List.mem_map.symm

theorem place_withTree (σ : Session) (host : Host) (tree : Folder) :
    (σ.withTree host tree).journal.files.map LogFile.place = σ.journal.files.map LogFile.place := by
  rw [withTree, Journal.files_follow, List.map_map]
  rfl

namespace Untouched

variable {σ₀ σ τ : Session}

theorem of_reported (h : σ.Reported τ) : σ.Untouched τ :=
  ⟨h.tree_eq, h.shape, fun ns hns => h.look ns fun hwrites => hns (logs_of_writes hwrites),
    by rw [h.files], h.scratch⟩

theorem logs_iff (h : σ₀.Untouched σ) (ns : List Text) : σ.Logs ns ↔ σ₀.Logs ns := by
  rw [logs_iff_place, logs_iff_place, h.log]

theorem trans (h : σ₀.Untouched σ) (h' : σ.Untouched τ) : σ₀.Untouched τ where
  tree := by
    intro hfiles
    have hfiles' : σ.journal.files = [] := by
      rw [← List.map_eq_nil_iff, h.log, hfiles]
      rfl
    exact (h'.tree hfiles').trans (h.tree hfiles)
  shape := h.shape.trans h'.shape
  look := fun ns hns => (h'.look ns fun hlog => hns ((h.logs_iff ns).1 hlog)).trans (h.look ns hns)
  log := h'.log.trans h.log
  scratch := h'.scratch.trans h.scratch

/-- Looking at the tree is no change of it. -/
theorem withTree (σ : Session) (host : Host) : σ.Untouched (σ.withTree host σ.tree) :=
  ⟨fun _ => rfl, .refl _, fun _ _ => rfl, σ.place_withTree host _, rfl⟩

/-- That something lay too deep changes nothing. -/
theorem stopped (σ : Session) : σ.Untouched σ.stopped :=
  ⟨fun _ => rfl, .refl _, fun _ _ => rfl, rfl, rfl⟩

end Untouched

/-! ## Sessions in which a directory has been cleared -/

/-- A session after a scratch directory has been cleared, and nothing else has happened. -/
structure Cleared (path : Path) (σ₀ σ : Session) : Prop where
  /-- Nothing is at the path and below it. -/
  gone : ∀ ns, path.parts <+: ns → σ.tree.look ns = none
  /-- Nothing is in the way of making the directory again. -/
  free : ¬ σ.tree.Blocked path.parts
  /-- Everything else is as it was, apart from the bytes of log files. -/
  outside : ∀ ns, ¬ path.parts <+: ns → ¬ σ₀.Logs ns → σ.tree.look ns = σ₀.tree.look ns
  /-- No file or directory came or went elsewhere. -/
  kinds : ∀ ns, ¬ path.parts <+: ns → σ.tree.kindAt ns = σ₀.tree.kindAt ns
  /-- The log files are where they were. -/
  log : σ.journal.files.map LogFile.place = σ₀.journal.files.map LogFile.place
  /-- The scratch directory is marked as cleared. -/
  scratch : σ.scratch = σ₀.scratch.map fun d => { d with emptied := true }

theorem Cleared.untouched {path : Path} {σ₀ σ τ : Session} (h : σ₀.Cleared path σ)
    (h' : σ.Untouched τ) : σ₀.Cleared path τ where
  gone := by
    intro ns hns
    rw [← Folder.kindAt_eq_none_iff]
    exact (h'.shape ns).symm.trans (Folder.kindAt_eq_none_iff.2 (h.gone ns hns))
  free := fun hblocked => h.free (h'.shape.blocked_iff.2 hblocked)
  outside := by
    intro ns hns hlog
    rw [h'.look ns fun hlog' => hlog ?_]
    · exact h.outside ns hns hlog
    · rwa [logs_iff_place, ← h.log, ← logs_iff_place]
  kinds := fun ns hns => (h'.shape ns).symm.trans (h.kinds ns hns)
  log := h'.log.trans h.log
  scratch := h'.scratch.trans h.scratch

theorem Untouched.cleared {path : Path} {σ₀ σ τ : Session} (h : σ₀.Untouched σ)
    (h' : σ.Cleared path τ) : σ₀.Cleared path τ where
  gone := h'.gone
  free := h'.free
  outside := fun ns hns hlog =>
    (h'.outside ns hns fun hlog' => hlog ((h.logs_iff ns).1 hlog')).trans (h.look ns hlog)
  kinds := fun ns hns => (h'.kinds ns hns).trans (h.shape ns).symm
  log := h'.log.trans h.log
  scratch := by rw [h'.scratch, h.scratch]

theorem stable_cleared {path : Path} {σ₀ : Session} : Session.Stable (Cleared path σ₀) :=
  fun _ _ hσ hrep => hσ.untouched (.of_reported hrep)

/-- A session after clearing a scratch directory has stopped because something in it lies too deep.
Part of the directory may be gone. -/
structure Torn (path : Path) (room : Nat) (σ₀ σ : Session) : Prop where
  /-- The directory is still there, and still too deep. -/
  left : ∃ inner, σ.tree.get? path.parts = some (.dir inner) ∧ room < inner.depth
  /-- Everything else is as it was, apart from the bytes of log files. -/
  outside : ∀ ns, ¬ path.parts <+: ns → ¬ σ₀.Logs ns → σ.tree.look ns = σ₀.tree.look ns
  /-- No file or directory came or went elsewhere. -/
  kinds : ∀ ns, ¬ path.parts <+: ns → σ.tree.kindAt ns = σ₀.tree.kindAt ns
  /-- The log files are where they were. -/
  log : σ.journal.files.map LogFile.place = σ₀.journal.files.map LogFile.place
  /-- The scratch directory is marked as it was. -/
  scratch : σ.scratch = σ₀.scratch

theorem Untouched.torn {path : Path} {room : Nat} {σ₀ σ τ : Session} (h : σ₀.Untouched σ)
    (h' : σ.Torn path room τ) : σ₀.Torn path room τ where
  left := h'.left
  outside := fun ns hns hlog =>
    (h'.outside ns hns fun hlog' => hlog ((h.logs_iff ns).1 hlog')).trans (h.look ns hlog)
  kinds := fun ns hns => (h'.kinds ns hns).trans (h.shape ns).symm
  log := h'.log.trans h.log
  scratch := h'.scratch.trans h.scratch

end Session

/-- Removing a directory other than the root changes nothing if it is refused. -/
theorem Folder.removeTree_error {f g : Folder} {cwd : Spot} {p : Path} {e : OsFault} (hp : p.Settled)
    (hne : p.parts ≠ []) (h : f.removeTree cwd p = (.error e, g)) : g = f := by
  rcases removeTree_cases hp hne with ⟨-, hok, -⟩ | ⟨-, hsame, -⟩
  · rw [h] at hok
    cases hok
  · rwa [h] at hsame

namespace Action

theorem outcome_checkPath {host : Host} {p : Path} (hclean : p.fault? host.halves = none)
    (s : Session) : (checkPath host p).outcome s = (.ok (), s) := by
  rw [checkPath, hclean]
  rfl

end Action

namespace Scratch

section

variable {v : Voice} {path : Path}

/-! ## Clearing -/

/-- The session in which a directory is about to be cleared. -/
def clearing (v : Voice) (σ : Session) : Session :=
  ((v.verbose "Cleaning up \"tmp\" directory...").outcome σ).2

theorem reported_clearing (v : Voice) (σ : Session) : σ.Reported (clearing v σ) := by
  obtain ⟨τ, hsay, hrep⟩ := v.outcome_say Level.verbose "Cleaning up \"tmp\" directory..." σ
  rwa [clearing, Voice.verbose, hsay]

/-- Whether a directory cannot be removed because something in it lies too deep. -/
def TooDeep (v : Voice) (path : Path) (σ : Session) : Prop :=
  ∃ room spot inner, v.host.room σ.moment = some room ∧
    σ.tree.stat (σ.spot v.host) path = .ok (spot, .dir inner) ∧ room < inner.depth

/-- That is where removing it stops. -/
theorem tooDeep_iff (hp : path.Settled) (hne : path.parts ≠ []) {σ : Session} :
    TooDeep v path σ ↔ ∃ room left, v.host.room σ.moment = some room ∧
      σ.tree.stuck? room (σ.spot v.host) path = some left := by
  constructor
  · rintro ⟨room, spot, inner, hroom, hstat, hdeep⟩
    obtain ⟨husable, rfl, hget⟩ := (Folder.stat_eq_ok_iff hp).1 hstat
    exact ⟨room, _, hroom, (Folder.stuck?_eq_some_iff hp hne).2 ⟨husable, inner, hget, hdeep, rfl⟩⟩
  · rintro ⟨room, left, hroom, hleft⟩
    obtain ⟨husable, inner, hget, hdeep, -⟩ := (Folder.stuck?_eq_some_iff hp hne).1 hleft
    exact ⟨room, _, inner, hroom, (Folder.stat_eq_ok_iff hp).2 ⟨husable, rfl, hget⟩, hdeep⟩

/-- A path that cannot be asked for is not removed. -/
theorem outcome_clear_of_fault {f : Fault} (hf : path.fault? v.host.halves = some f) (σ : Session) :
    (clear v path).outcome σ = (.error f, clearing v σ) := by
  have hcheck : (Action.checkPath v.host path).outcome (clearing v σ) = (.error f, clearing v σ) := by
    rw [Action.checkPath, hf]
    rfl
  obtain ⟨τ, hsay, -⟩ := v.outcome_say Level.verbose "Cleaning up \"tmp\" directory..." σ
  have hclearing : clearing v σ = τ := by rw [clearing, Voice.verbose, hsay]
  rw [hclearing] at hcheck ⊢
  rw [clear, Voice.verbose, Action.outcome_bind_ok hsay, Action.outcome_bind_error hcheck]

/-- Clearing stops where removing the directory stops. -/
theorem outcome_clear_of_stuck (hclean : path.fault? v.host.halves = none) {σ : Session} {room : Nat}
    {left : Folder} (hroom : v.host.room (clearing v σ).moment = some room)
    (hleft : (clearing v σ).tree.stuck? room ((clearing v σ).spot v.host) path = some left) :
    (clear v path).outcome σ =
      (.error (.misuse .depth), ((clearing v σ).withTree v.host left).stopped) := by
  have hremove : (Action.removeTree v.host path).outcome (clearing v σ) =
      (.error (.misuse .depth), ((clearing v σ).withTree v.host left).stopped) := by
    rw [Action.removeTree, Action.outcome_bind_ok (Action.outcome_get _), hroom, Option.bind_some,
      hleft]
    rfl
  obtain ⟨τ, hsay, -⟩ := v.outcome_say Level.verbose "Cleaning up \"tmp\" directory..." σ
  have hclearing : clearing v σ = τ := by rw [clearing, Voice.verbose, hsay]
  rw [hclearing] at hremove ⊢
  rw [clear, Voice.verbose, Action.outcome_bind_ok hsay,
    Action.outcome_bind_ok (Action.outcome_checkPath hclean τ), Action.outcome_bind_error hremove]

/-- Otherwise it works unless removing the directory is refused; that it was not there does not
matter. -/
theorem outcome_clear_of_not_stuck (hclean : path.fault? v.host.halves = none) {σ : Session}
    (hnone : ((v.host.room (clearing v σ).moment).bind fun room =>
      (clearing v σ).tree.stuck? room ((clearing v σ).spot v.host) path) = none)
    {r : Except OsFault Unit × Folder}
    (hr : (clearing v σ).tree.removeTree ((clearing v σ).spot v.host) path = r) :
    ((∀ e, r.1 = .error e → e.errno = .noEntry) ∧ ∃ σ', (clear v path).outcome σ = (.ok (), σ') ∧
        (marked true ((clearing v σ).withTree v.host r.2)).Reported σ') ∨
      (∃ e, r.1 = .error e ∧ e.errno ≠ .noEntry) ∧
        ∃ σ', (clear v path).outcome σ = (.error (.scratch (.notRemoved path)), σ') ∧
          ((clearing v σ).withTree v.host r.2).Reported σ' := by
  have hremove : (Action.removeTree v.host path).outcome (clearing v σ) =
      (.ok r.1, (clearing v σ).withTree v.host r.2) := by
    rw [Action.removeTree, Action.outcome_bind_ok (Action.outcome_get _), hnone, ← hr]
    rfl
  obtain ⟨τ, hsay, -⟩ := v.outcome_say Level.verbose "Cleaning up \"tmp\" directory..." σ
  have hclearing : clearing v σ = τ := by rw [clearing, Voice.verbose, hsay]
  rw [hclearing] at hremove ⊢
  rw [clear, Voice.verbose, Action.outcome_bind_ok hsay,
    Action.outcome_bind_ok (Action.outcome_checkPath hclean τ), Action.outcome_bind_ok hremove]
  have hdone : ∃ σ', (do
      mark true
      v.verbose "\"tmp\" directory was cleaned!").outcome (τ.withTree v.host r.2) = (.ok (), σ') ∧
      (marked true (τ.withTree v.host r.2)).Reported σ' :=
    v.outcome_say Level.verbose "\"tmp\" directory was cleaned!" (marked true (τ.withTree v.host r.2))
  have hrefused (e : OsFault) : Action.Gives (do
      v.error ("Could not clean up \"tmp\" directory at \"" ++ path.toString ++ "\"!")
      v.debug ("Error: " ++ e.message)
      throw (.scratch (.notRemoved path))
      mark true
      v.verbose "\"tmp\" directory was cleaned!") (.error (.scratch (.notRemoved path))) :=
    .bind (.say _ _ _) (.bind (.say _ _ _) (.bind_error (.throw _)))
  rcases hres : r.1 with e | u
  · by_cases hmissing : e.errno = .noEntry
    · refine Or.inl ⟨fun e' he' => by cases he'; exact hmissing, ?_⟩
      simpa only [hmissing, ne_eq, not_true_eq_false, if_false] using hdone
    · obtain ⟨σ', hrun, hrep⟩ := hrefused e (τ.withTree v.host r.2)
      refine Or.inr ⟨⟨e, rfl, hmissing⟩, σ', ?_, hrep⟩
      simpa only [hmissing, ne_eq, not_false_eq_true, if_true, bind_assoc] using hrun
  · refine Or.inl ⟨fun e he => ?_, hdone⟩
    cases he

theorem look_clearing {σ : Session} {ns : List Text} (hlog : ¬ σ.Logs ns) :
    (clearing v σ).tree.look ns = σ.tree.look ns :=
  (reported_clearing v σ).look ns fun h => hlog (Session.logs_of_writes h)

theorem kindAt_clearing {σ : Session} {tree : Folder} {ns : List Text}
    (h : tree.look ns = (clearing v σ).tree.look ns) : tree.kindAt ns = σ.tree.kindAt ns :=
  (Folder.kindAt_eq _ _).trans (((congrArg _ h).trans (Folder.kindAt_eq _ _).symm).trans
    ((reported_clearing v σ).shape ns).symm)

theorem place_clearing (v : Voice) (σ : Session) (tree : Folder) :
    ((clearing v σ).withTree v.host tree).journal.files.map LogFile.place =
      σ.journal.files.map LogFile.place := by
  rw [Session.place_withTree, (reported_clearing v σ).files]

/-- A directory that is removed, or was missing, is cleared. -/
theorem cleared_of_removed (hp : path.Settled) (hne : path.parts ≠ []) {σ : Session}
    {r : Except OsFault Unit} {tree : Folder}
    (hremove : (clearing v σ).tree.removeTree ((clearing v σ).spot v.host) path = (r, tree))
    (hremoved : ∀ e, r = .error e → e.errno = .noEntry) :
    σ.Cleared path (marked true ((clearing v σ).withTree v.host tree)) := by
  have houtside {ns : List Text} (hns : ¬ path.parts <+: ns) :
      tree.look ns = (clearing v σ).tree.look ns := by
    have hsame : ((clearing v σ).tree.removeTree ((clearing v σ).spot v.host) path).2.look ns =
        (clearing v σ).tree.look ns := Folder.look_removeTree_outside hp hns
    rwa [hremove] at hsame
  replace hremoved : ∀ e, ((clearing v σ).tree.removeTree ((clearing v σ).spot v.host) path).1 =
      .error e → e.errno = .noEntry := by
    rwa [hremove]
  have hfree := Folder.not_blocked_removeTree hp hne hremoved
  rw [hremove] at hfree
  refine ⟨fun ns hns => ?_, hfree, fun ns hns hlog => (houtside hns).trans (look_clearing hlog),
    fun ns hns => kindAt_clearing (houtside hns), place_clearing v σ tree, ?_⟩
  · have hnone := Folder.look_removeTree_inside hp hremoved hns
    rwa [hremove] at hnone
  · rw [← (reported_clearing v σ).scratch]
    rfl

/-- A directory whose removal has stopped is torn. -/
theorem torn_of_stuck (hp : path.Settled) (hne : path.parts ≠ []) {σ : Session} {room : Nat}
    {left : Folder}
    (hleft : (clearing v σ).tree.stuck? room ((clearing v σ).spot v.host) path = some left) :
    σ.Torn path room ((clearing v σ).withTree v.host left).stopped := by
  obtain ⟨hthere, -, houtside⟩ := Folder.stuck?_spec hp hne hleft
  exact ⟨hthere, fun ns hns hlog => (houtside ns hns).trans (look_clearing hlog),
    fun ns hns => kindAt_clearing (houtside ns hns), place_clearing v σ left,
    (reported_clearing v σ).scratch⟩

/-- Clearing a directory other than the root works, tears it, or leaves no trace. -/
theorem clear_cases (hpath : v.host.Takes path) (hne : path.parts ≠ []) (σ : Session) :
    (∃ σ', (clear v path).outcome σ = (.ok (), σ') ∧ ¬ TooDeep v path (clearing v σ) ∧
        σ.Cleared path σ') ∨
      (∃ σ', (clear v path).outcome σ = (.error (.scratch (.notRemoved path)), σ') ∧
        ¬ TooDeep v path (clearing v σ) ∧ σ.Untouched σ') ∨
      ∃ σ' room, (clear v path).outcome σ = (.error (.misuse .depth), σ') ∧
        TooDeep v path (clearing v σ) ∧ v.host.room (clearing v σ).moment = some room ∧
        σ.Torn path room σ' := by
  have htooDeep := tooDeep_iff (v := v) (σ := clearing v σ) hpath.settled hne
  rcases hstuck : (v.host.room (clearing v σ).moment).bind fun room =>
    (clearing v σ).tree.stuck? room ((clearing v σ).spot v.host) path with - | left
  · have hshallow : ¬ TooDeep v path (clearing v σ) := by
      intro hdeep
      obtain ⟨room, left, hroom, hleft⟩ := htooDeep.1 hdeep
      rw [hroom, Option.bind_some, hleft] at hstuck
      cases hstuck
    rcases hremove : (clearing v σ).tree.removeTree ((clearing v σ).spot v.host) path with ⟨r, tree⟩
    rcases outcome_clear_of_not_stuck hpath.clean hstuck hremove with
      ⟨hremoved, σ', hrun, hcleared⟩ | ⟨⟨e, herror, hthere⟩, σ', hrun, hkept⟩
    · exact Or.inl ⟨σ', hrun, hshallow, Session.stable_cleared _ _
        (cleared_of_removed hpath.settled hne hremove hremoved) hcleared⟩
    · refine Or.inr (Or.inl ⟨σ', hrun, hshallow, ?_⟩)
      cases herror
      rw [Folder.removeTree_error hpath.settled hne hremove] at hkept
      exact (Session.Untouched.of_reported (reported_clearing v σ)).trans
        ((Session.Untouched.withTree _ v.host).trans (.of_reported hkept))
  · obtain ⟨room, hroom, hleft⟩ := Option.bind_eq_some_iff.1 hstuck
    exact Or.inr (Or.inr ⟨_, room, outcome_clear_of_stuck hpath.clean hroom hleft,
      htooDeep.2 ⟨room, left, hroom, hleft⟩, hroom, torn_of_stuck hpath.settled hne hleft⟩)

/-! ## Trying to make the directory -/

/-- Whether a try to make the directory is refused. -/
def Refused (v : Voice) (path : Path) (σ : Session) : Prop :=
  (σ.tree.makeDirs (σ.spot v.host) path).1 ≠ .ok ()

/-- Whether a directory cannot be made because too many are missing above it. -/
def TooSteep (v : Voice) (path : Path) (σ : Session) : Prop :=
  ∃ rungs, v.host.rungs σ.moment = some rungs ∧ rungs < σ.tree.climb (σ.spot v.host) path

theorem tooSteep_iff {σ : Session} : TooSteep v path σ ↔
    (v.host.rungs σ.moment).any (· < σ.tree.climb (σ.spot v.host) path) = true := by
  rw [TooSteep, Option.any_eq_true]
  exact exists_congr fun rungs => and_congr Iff.rfl decide_eq_true_iff.symm

theorem outcome_attempt_of_tooSteep (hclean : path.fault? v.host.halves = none) {σ : Session}
    (h : TooSteep v path σ) : (attempt v path).outcome σ = (.error (.misuse .depth), σ.stopped) := by
  have hmake : (Action.makeDirs v.host path).outcome σ = (.error (.misuse .depth), σ.stopped) := by
    rw [Action.makeDirs, Action.outcome_bind_ok (Action.outcome_get _), if_pos (tooSteep_iff.1 h)]
    rfl
  rw [attempt, Action.outcome_bind_ok (Action.outcome_checkPath hclean σ),
    Action.outcome_bind_error hmake]

/-- Otherwise a try makes the directory and marks it, or says that it was refused. -/
theorem outcome_attempt (hclean : path.fault? v.host.halves = none) {σ : Session}
    (hflat : ¬ TooSteep v path σ) :
    (¬ Refused v path σ ∧ ∃ σ', (attempt v path).outcome σ = (.ok true, σ') ∧
      (marked false (σ.withTree v.host (σ.tree.makeDirs (σ.spot v.host) path).2)).Reported σ') ∨
    (Refused v path σ ∧ ∃ σ', (attempt v path).outcome σ = (.ok false, σ') ∧
      (σ.withTree v.host (σ.tree.makeDirs (σ.spot v.host) path).2).Reported σ') := by
  have hmade : Action.Gives (do
      v.verbose "\"tmp\" directory was prepared!"
      pure true) (.ok true) :=
    .bind (.say _ _ _) (.pure _)
  have hrefused (e : OsFault) : Action.Gives (do
      v.error ("Failed to create \"" ++ path.toString ++ "\"!")
      v.debug ("Error: " ++ e.message)
      pure false) (.ok false) :=
    .bind (.say _ _ _) (.bind (.say _ _ _) (.pure _))
  have hmake : (Action.makeDirs v.host path).outcome σ =
      (.ok (σ.tree.makeDirs (σ.spot v.host) path).1,
        σ.withTree v.host (σ.tree.makeDirs (σ.spot v.host) path).2) := by
    rw [Action.makeDirs, Action.outcome_bind_ok (Action.outcome_get _),
      if_neg (mt tooSteep_iff.2 hflat)]
    rfl
  rw [attempt, Action.outcome_bind_ok (Action.outcome_checkPath hclean σ),
    Action.outcome_bind_ok hmake, Refused]
  cases (σ.tree.makeDirs (σ.spot v.host) path).1 with
  | ok u =>
    obtain ⟨σ', hrun, hrep⟩ := hmade (marked false
      (σ.withTree v.host (σ.tree.makeDirs (σ.spot v.host) path).2))
    exact Or.inl ⟨fun h => h rfl, σ', hrun, hrep⟩
  | error e =>
    obtain ⟨σ', hrun, hrep⟩ := hrefused e
      (σ.withTree v.host (σ.tree.makeDirs (σ.spot v.host) path).2)
    refine Or.inr ⟨?_, σ', hrun, hrep⟩
    intro h
    cases h

/-- A try is refused exactly if a file is in the way. -/
theorem refused_iff (hpath : path.Settled) (husable : path.Usable) {σ : Session} :
    Refused v path σ ↔ σ.tree.Blocked path.parts := by
  rw [Refused]
  rcases Folder.makeDirs_cases hpath husable with ⟨hok, hfree⟩ | ⟨hrefused, -, hblocked⟩
  · exact ⟨fun h => absurd hok h, fun h => absurd h hfree⟩
  · exact ⟨fun _ => hblocked, fun _ => hrefused⟩

/-- Nothing is missing above the path where a file is in the way. -/
theorem not_tooSteep_of_blocked (hpath : path.Settled) (husable : path.Usable) {σ : Session}
    (h : σ.tree.Blocked path.parts) : ¬ TooSteep v path σ := by
  rintro ⟨rungs, -, hclimb⟩
  rw [Folder.climb_of_blocked hpath husable h] at hclimb
  exact Nat.not_lt_zero _ hclimb

/-- A try that is refused leaves no trace. -/
theorem Refused.untouched (hpath : path.Settled) (husable : path.Usable) {σ : Session}
    (h : Refused v path σ) :
    σ.Untouched (σ.withTree v.host (σ.tree.makeDirs (σ.spot v.host) path).2) := by
  rcases Folder.makeDirs_cases hpath husable with ⟨hok, -⟩ | ⟨-, hsame, -⟩
  · exact absurd hok h
  · rw [hsame]
    exact .withTree σ v.host

end
end Scratch
end AmbientBundle
