import AmbientBundle.Session
import AmbientBundle.Proofs.FileTree.Names
import AmbientBundle.Proofs.FileTree.Places

/-!
# Runs and reports

`Action.outcome` runs an action, and the lemmas here say what it does to the
building blocks of actions, so that a proof about a run never opens the monad.

Most steps of a run do nothing but report.  A report goes to the journal and to the
log files that are open; it makes, removes and renames nothing.  `Reported` relates
the sessions before and after.  `Action.Gives` is said of an action that has the
same result in every session and leaves nothing but reports behind, and
`Action.Reports` of one that leaves nothing but reports behind, whatever its result.
Between the two is `Action.Blind`: the result may depend on whether the working directory
is still there, and on nothing else in the session.
-/

namespace AmbientBundle

namespace Action

/-! ## Running -/

@[simp] theorem outcome_pure {α : Type} (a : α) (s : Session) :
    (pure a : Action α).outcome s = (.ok a, s) := rfl

@[simp] theorem outcome_get (s : Session) : (get : Action Session).outcome s = (.ok s, s) := rfl

/-- Actions run one after the other, until one fails. -/
theorem outcome_bind {α β : Type} (act : Action α) (next : α → Action β) (s : Session) :
    (act >>= next).outcome s =
      match act.outcome s with
      | (.ok a, s') => (next a).outcome s'
      | (.error e, s') => (.error e, s') := by
  simp only [outcome, ExceptT.run_bind, StateT.run_bind]
  rcases StateT.run (ExceptT.run act) s with ⟨r, s'⟩
  cases r with
  | error e => rfl
  | ok a => rfl

theorem outcome_bind_ok {α β : Type} {act : Action α} {next : α → Action β} {s s' : Session} {a : α}
    (h : act.outcome s = (.ok a, s')) : (act >>= next).outcome s = (next a).outcome s' := by
  rw [outcome_bind, h]

theorem outcome_bind_error {α β : Type} {act : Action α} {next : α → Action β} {s s' : Session}
    {e : Fault} (h : act.outcome s = (.error e, s')) :
    (act >>= next).outcome s = (.error e, s') := by
  rw [outcome_bind, h]

/-- A run that gives a result went through both of its parts. -/
theorem outcome_bind_eq_ok {α β : Type} {act : Action α} {next : α → Action β} {s t : Session}
    {b : β} (h : (act >>= next).outcome s = (.ok b, t)) :
    ∃ a s', act.outcome s = (.ok a, s') ∧ (next a).outcome s' = (.ok b, t) := by
  rw [outcome_bind] at h
  rcases hact : act.outcome s with ⟨r, s'⟩
  rw [hact] at h
  cases r with
  | error e => cases h
  | ok a => exact ⟨a, s', rfl, h⟩

end Action

/-! ## Sessions after reports -/

/-- Whether a log file is open at a place. -/
def Session.Logs (s : Session) (ns : List Text) : Prop := ∃ f ∈ s.journal.files, f.place = ns

/-- Whether reports go to a file at a place: a log file is open there and has not been removed. -/
def Session.Writes (s : Session) (ns : List Text) : Prop :=
  ∃ f ∈ s.journal.files, f.gone = false ∧ f.place = ns

theorem Session.not_writes {s : Session} (h : s.journal.files = []) (ns : List Text) :
    ¬ s.Writes ns := by
  rintro ⟨f, hf, -⟩
  rw [h] at hf
  cases hf

theorem Session.logs_of_writes {s : Session} {ns : List Text} (h : s.Writes ns) : s.Logs ns := by
  obtain ⟨f, hf, -, hplace⟩ := h
  exact ⟨f, hf, hplace⟩

/-- A session after reports: log files may be longer and the journal is, and all else is as
it was. -/
structure Session.Reported (s s' : Session) : Prop where
  /-- No file or directory came or went. -/
  shape : s.tree.SameShape s'.tree
  /-- The names are still those of a file system. -/
  names : s.tree.WellFormed → s'.tree.WellFormed
  /-- No bytes changed but those of files that reports go to. -/
  look : ∀ ns, ¬ s.Writes ns → s'.tree.look ns = s.tree.look ns
  /-- A directory without a file that reports go to is the very same. -/
  inside : ∀ ns, (∀ ms, ¬ s.Writes (ns ++ ms)) → s'.tree.get? ns = s.tree.get? ns
  /-- The journal goes where it went. -/
  log : s'.journal.handlers = s.journal.handlers
  /-- The working directory is as it was. -/
  lost : s'.lost = s.lost
  /-- The scratch directory is as it was. -/
  scratch : s'.scratch = s.scratch
  /-- The manifest is as it was. -/
  manifest : s'.manifest = s.manifest
  /-- No program was started. -/
  launches : s'.launches = s.launches
  /-- No temporary directory was made. -/
  temporaries : s'.temporaries = s.temporaries
  /-- There was no pause. -/
  pauses : s'.pauses = s.pauses
  /-- Nothing lay too deep. -/
  stops : s'.stops = s.stops

namespace Session.Reported

theorem refl (s : Session) : s.Reported s :=
  ⟨.refl s.tree, id, fun _ _ => rfl, fun _ _ => rfl, rfl, rfl, rfl, rfl, rfl, rfl, rfl, rfl⟩

/-- The same log files are open. -/
theorem files {s s' : Session} (h : s.Reported s') : s'.journal.files = s.journal.files :=
  congrArg (List.filterMap Handler.file?) h.log

theorem writes_iff {s s' : Session} (h : s.Reported s') (ns : List Text) :
    s'.Writes ns ↔ s.Writes ns := by
  rw [Session.Writes, Session.Writes, h.files]

/-- The log files stay where they are. -/
theorem logs_iff {s s' : Session} (h : s.Reported s') (ns : List Text) : s'.Logs ns ↔ s.Logs ns := by
  rw [Session.Logs, Session.Logs, h.files]

theorem trans {s t u : Session} (hst : s.Reported t) (htu : t.Reported u) : s.Reported u where
  shape := hst.shape.trans htu.shape
  names := htu.names ∘ hst.names
  look := fun ns hns => (htu.look ns fun h => hns ((hst.writes_iff ns).1 h)).trans (hst.look ns hns)
  inside := fun ns hns =>
    (htu.inside ns fun ms h => hns ms ((hst.writes_iff _).1 h)).trans (hst.inside ns hns)
  log := htu.log.trans hst.log
  lost := htu.lost.trans hst.lost
  scratch := htu.scratch.trans hst.scratch
  manifest := htu.manifest.trans hst.manifest
  launches := htu.launches.trans hst.launches
  temporaries := htu.temporaries.trans hst.temporaries
  pauses := htu.pauses.trans hst.pauses
  stops := htu.stops.trans hst.stops

/-- Without a log file reports leave the very same tree. -/
theorem tree_eq {s s' : Session} (h : s.Reported s') (hfile : s.journal.files = []) :
    s'.tree = s.tree := by
  have hsame := h.inside [] fun ms => Session.not_writes hfile _
  rwa [Folder.get?_nil, Folder.get?_nil, Option.some.injEq, Entry.dir.injEq] at hsame

/-- Reports do not move the working directory. -/
theorem spot {s s' : Session} (h : s.Reported s') (host : Host) : s'.spot host = s.spot host := by
  rw [Session.spot, Session.spot, h.lost]

/-- Reports do not change which texts lead to a file. -/
theorem isFileText {s s' : Session} (h : s.Reported s') (host : Host) :
    s'.tree.isFileText (s'.spot host) = s.tree.isFileText (s.spot host) := by
  funext raw
  rw [h.spot, Folder.isFileText_congr h.shape]

end Session.Reported

theorem Handler.file?_follow (tree : Folder) (h : Handler) :
    (h.follow tree).file? =
      h.file?.map fun f => { f with gone := f.gone || !tree.hasFile f.place } := by
  obtain ⟨level, sink⟩ := h
  cases sink <;> rfl

/-- The log files that a journal follows are the same files, some of which may have gone. -/
theorem Journal.files_follow (j : Journal) (tree : Folder) :
    (j.follow tree).files =
      j.files.map fun f => { f with gone := f.gone || !tree.hasFile f.place } := by
  rw [files, files, follow, List.filterMap_map, List.map_filterMap]
  exact List.filterMap_congr fun h _ => h.file?_follow tree

theorem Session.logs_withTree {σ : Session} {host : Host} {tree : Folder} {ns : List Text} :
    (σ.withTree host tree).Logs ns ↔ σ.Logs ns := by
  simp only [Session.Logs, Session.withTree, Journal.files_follow, List.mem_map]
  constructor
  · rintro ⟨-, ⟨f, hf, rfl⟩, hplace⟩
    exact ⟨f, hf, hplace⟩
  · rintro ⟨f, hf, hplace⟩
    exact ⟨_, ⟨f, hf, rfl⟩, hplace⟩

theorem Session.writes_withTree {σ : Session} {host : Host} {tree : Folder} {ns : List Text}
    (h : (σ.withTree host tree).Writes ns) : σ.Writes ns ∧ tree.hasFile ns = true := by
  simp only [Session.Writes, Session.withTree, Journal.files_follow, List.mem_map] at h
  obtain ⟨-, ⟨f, hf, rfl⟩, hgone, hplace⟩ := h
  simp only [Bool.or_eq_false_iff, Bool.not_eq_false'] at hgone hplace
  exact ⟨⟨f, hf, hgone.1, hplace⟩, hplace ▸ hgone.2⟩

/-- Adding to a log file changes nothing, or the bytes of the file, which is still there. -/
theorem LogFile.append_cases (f : LogFile) (more : Bytes) (tree : Folder) :
    f.append more tree = tree ∨
      f.gone = false ∧ ∃ old new mode, tree.get? f.place = some (.file old mode) ∧
        f.append more tree = tree.put f.place (.file new mode) := by
  rw [append]
  split
  · next old mode hgone hplace => exact Or.inr ⟨hgone, old, _, mode, hplace, rfl⟩
  · exact Or.inl rfl

/-- What holds of a tree is kept by a record if adding to any open log file keeps it. -/
theorem Journal.keeps_write {j : Journal} {P : Folder → Prop}
    (hP : ∀ f ∈ j.files, ∀ more tree, P tree → P (f.append more tree)) (halves : Halves)
    (stamp : String) (r : Record) {tree : Folder} (h : P tree) :
    P (j.write halves stamp r tree).2 := by
  have hemit (out : String × Folder) (hdl : Handler) (hmem : hdl ∈ j.handlers) (hout : P out.2) :
      P (hdl.emit halves stamp r out).2 := by
    rw [Handler.emit]
    split
    · exact hout
    · split
      · exact hout
      · next f hsink =>
        split
        · exact hP f (List.mem_filterMap.2 ⟨hdl, hmem, by rw [Handler.file?, hsink]⟩) _ _ hout
        · exact hout
  have hfold (hdls : List Handler) (hsub : ∀ hdl ∈ hdls, hdl ∈ j.handlers) (out : String × Folder)
      (hout : P out.2) : P (hdls.foldl (Handler.emit halves stamp r) out).2 := by
    induction hdls generalizing out with
    | nil => exact hout
    | cons hdl rest ih =>
      exact ih (fun g hg => hsub g (List.mem_cons_of_mem _ hg)) _
        (hemit out hdl (hsub hdl List.mem_cons_self) hout)
  change P (j.hand halves stamp r tree).2
  rw [hand]
  split
  · exact h
  · split
    · exact h
    · split
      · exact h
      · exact hfold _ (fun _ => id) _ h

/-- The shape of the tree stays. -/
theorem Journal.sameShape_write (j : Journal) (halves : Halves) (stamp : String) (r : Record)
    (tree : Folder) : tree.SameShape (j.write halves stamp r tree).2 := by
  refine j.keeps_write (P := tree.SameShape) (fun f _ more t ht => ?_) _ _ _ (.refl tree)
  rcases f.append_cases more t with hsame | ⟨-, old, new, mode, hplace, hput⟩
  · rwa [hsame]
  · rw [hput]
    exact ht.trans (Folder.sameShape_put hplace)

theorem Journal.wellFormed_write (j : Journal) (halves : Halves) (stamp : String) (r : Record)
    {tree : Folder} (h : tree.WellFormed) : (j.write halves stamp r tree).2.WellFormed := by
  refine j.keeps_write (fun f _ more t ht => ?_) _ _ _ h
  rcases f.append_cases more t with hsame | ⟨-, old, new, mode, hplace, hput⟩
  · rwa [hsame]
  · rw [hput]
    exact ht.put_file hplace

/-- Keeping a record changes nothing outside of the log files that are still there. -/
theorem Journal.look_write (j : Journal) (halves : Halves) (stamp : String) (r : Record)
    (tree : Folder) {ns : List Text} (hns : ∀ f ∈ j.files, f.gone = false → f.place ≠ ns) :
    (j.write halves stamp r tree).2.look ns = tree.look ns := by
  refine j.keeps_write (P := fun t => t.look ns = tree.look ns) (fun f hf more t ht => ?_) _ _ _ rfl
  rcases f.append_cases more t with hsame | ⟨hgone, old, new, mode, hplace, hput⟩
  · rwa [hsame]
  · rw [hput, Folder.look_put_file hplace (Ne.symm (hns f hf hgone)), ht]

/-- Keeping a record changes no directory but those that hold a log file. -/
theorem Journal.get?_write (j : Journal) (halves : Halves) (stamp : String) (r : Record)
    (tree : Folder) {ns : List Text} (hns : ∀ f ∈ j.files, f.gone = false → ¬ ns <+: f.place) :
    (j.write halves stamp r tree).2.get? ns = tree.get? ns := by
  refine j.keeps_write (P := fun t => t.get? ns = tree.get? ns) (fun f hf more t ht => ?_) _ _ _ rfl
  rcases f.append_cases more t with hsame | ⟨hgone, old, new, mode, hplace, hput⟩
  · rwa [hsame]
  · rw [hput, Folder.get?_put_file hplace (hns f hf hgone), ht]

/-- A message is recorded and leaves nothing but a report. -/
theorem Voice.outcome_say (v : Voice) (level : Level) (message : String) (s : Session) :
    ∃ s', (v.say level message).outcome s = (.ok (), s') ∧ s.Reported s' := by
  refine ⟨_, rfl, ⟨?_, ?_, ?_, ?_, rfl, rfl, rfl, rfl, rfl, rfl, rfl, rfl⟩⟩
  · exact s.journal.sameShape_write _ _ ⟨level, v.part, message⟩ s.tree
  · exact s.journal.wellFormed_write _ _ ⟨level, v.part, message⟩
  · exact fun ns hns => s.journal.look_write _ _ _ _ fun f hf hgone hplace =>
      hns ⟨f, hf, hgone, hplace⟩
  · intro ns hns
    refine s.journal.get?_write _ _ _ _ fun f hf hgone hpre => ?_
    obtain ⟨ms, hplace⟩ := hpre
    exact hns ms ⟨f, hf, hgone, hplace.symm⟩

/-- A message is recorded after all others. -/
theorem Voice.records_say {v : Voice} {level : Level} {message : String} {s s' : Session}
    (h : (v.say level message).outcome s = (.ok (), s')) :
    s'.journal.records = s.journal.records ++ [⟨level, v.part, message⟩] := by
  cases h
  rfl

/-! ## Actions with one result -/

/-- An action that gives one result in every session and does nothing but report. -/
def Action.Gives {α : Type} (act : Action α) (result : Except Fault α) : Prop :=
  ∀ s, ∃ s', act.outcome s = (result, s') ∧ s.Reported s'

namespace Action.Gives

/-- A run of such an action has its result. -/
theorem of_outcome {α : Type} {act : Action α} {r r' : Except Fault α} {s s' : Session}
    (h : act.Gives r) (hrun : act.outcome s = (r', s')) : r' = r ∧ s.Reported s' := by
  obtain ⟨t, ht, hrep⟩ := h s
  rw [hrun] at ht
  cases ht
  exact ⟨rfl, hrep⟩

theorem pure {α : Type} (a : α) : (Pure.pure a : Action α).Gives (.ok a) :=
  fun s => ⟨s, rfl, .refl s⟩

theorem throw {α : Type} (e : Fault) : (MonadExcept.throw e : Action α).Gives (.error e) :=
  fun s => ⟨s, rfl, .refl s⟩

/-- A message has no result but that it was recorded. -/
theorem say (v : Voice) (level : Level) (message : String) :
    (v.say level message).Gives (.ok ()) :=
  v.outcome_say level message

/-- One such action after another. -/
theorem bind {α β : Type} {act : Action α} {next : α → Action β} {a : α} {r : Except Fault β}
    (hact : act.Gives (.ok a)) (hnext : (next a).Gives r) : (act >>= next).Gives r := by
  intro s
  obtain ⟨s', hs', hrep⟩ := hact s
  obtain ⟨t, ht, hrep'⟩ := hnext s'
  exact ⟨t, by rw [outcome_bind_ok hs', ht], hrep.trans hrep'⟩

/-- Nothing comes after a failure. -/
theorem bind_error {α β : Type} {act : Action α} {next : α → Action β} {e : Fault}
    (hact : act.Gives (.error e)) : (act >>= next).Gives (.error e) := by
  intro s
  obtain ⟨s', hs', hrep⟩ := hact s
  exact ⟨s', outcome_bind_error hs', hrep⟩

end Action.Gives

/-! ## Actions that only report -/

/-- An action that does nothing but report, whatever its result. -/
def Action.Reports {α : Type} (act : Action α) : Prop :=
  ∀ s : Session, s.Reported (act.outcome s).2

namespace Action.Reports

theorem of_gives {α : Type} {act : Action α} {r : Except Fault α} (h : act.Gives r) :
    act.Reports := by
  intro s
  obtain ⟨s', hs', hrep⟩ := h s
  rwa [hs']

theorem pure {α : Type} (a : α) : (Pure.pure a : Action α).Reports := of_gives (.pure a)

theorem throw {α : Type} (e : Fault) : (MonadExcept.throw e : Action α).Reports :=
  of_gives (.throw e)

theorem say (v : Voice) (level : Level) (message : String) : (v.say level message).Reports :=
  of_gives (.say v level message)

theorem get : (MonadState.get : Action Session).Reports := fun s => .refl s

/-- One such action after another. -/
theorem bind {α β : Type} {act : Action α} {next : α → Action β} (hact : act.Reports)
    (hnext : ∀ a, (next a).Reports) : (act >>= next).Reports := by
  intro s
  have hrep := hact s
  rw [outcome_bind]
  rcases hrun : act.outcome s with ⟨r, s'⟩
  rw [hrun] at hrep
  cases r with
  | error e => exact hrep
  | ok a => exact hrep.trans (hnext a s')

theorem checkPath (host : Host) (p : Path) : (Action.checkPath host p).Reports := by
  rw [Action.checkPath]
  split
  · exact .throw _
  · exact .pure _

theorem needWorkingDir (needed : Bool) : (Action.needWorkingDir needed).Reports := by
  rw [Action.needWorkingDir]
  refine .bind .get fun s => ?_
  split
  · exact .throw _
  · exact .pure _

end Action.Reports

/-- An action that does nothing but report, and whose result depends on nothing in the session but
whether the working directory is still there. -/
structure Action.Blind {α : Type} (act : Action α) : Prop where
  /-- It only reports. -/
  reports : act.Reports
  /-- It has the same result in sessions that agree on the working directory. -/
  result : ∀ s t : Session, (s.lost = 0 ↔ t.lost = 0) → (act.outcome s).1 = (act.outcome t).1

namespace Action.Blind

theorem of_gives {α : Type} {act : Action α} {r : Except Fault α} (h : act.Gives r) :
    act.Blind where
  reports := .of_gives h
  result := by
    intro s t _
    obtain ⟨s', hs', _⟩ := h s
    obtain ⟨t', ht', _⟩ := h t
    rw [hs', ht']

theorem pure {α : Type} (a : α) : (Pure.pure a : Action α).Blind := of_gives (.pure a)

theorem throw {α : Type} (e : Fault) : (MonadExcept.throw e : Action α).Blind := of_gives (.throw e)

theorem say (v : Voice) (level : Level) (message : String) : (v.say level message).Blind :=
  of_gives (.say v level message)

/-- One such action after another. -/
theorem bind {α β : Type} {act : Action α} {next : α → Action β} (hact : act.Blind)
    (hnext : ∀ a, (next a).Blind) : (act >>= next).Blind where
  reports := .bind hact.reports fun a => (hnext a).reports
  result := by
    intro s t hlost
    have hresult := hact.result s t hlost
    have hs := (hact.reports s).lost
    have ht := (hact.reports t).lost
    rw [outcome_bind, outcome_bind]
    generalize act.outcome s = x at hresult hs ⊢
    generalize act.outcome t = y at hresult ht ⊢
    obtain ⟨r, s'⟩ := x
    obtain ⟨r', t'⟩ := y
    obtain rfl : r = r' := hresult
    cases r with
    | error e => rfl
    | ok a => exact (hnext a).result s' t' (by rw [hs, ht]; exact hlost)

theorem needWorkingDir (needed : Bool) : (Action.needWorkingDir needed).Blind where
  reports := .needWorkingDir needed
  result := by
    intro s t hlost
    rw [Action.needWorkingDir, outcome_bind_ok (outcome_get s), outcome_bind_ok (outcome_get t)]
    by_cases hs : s.lost = 0
    · simp only [hs, hlost.1 hs, ne_eq, not_true_eq_false, decide_false, Bool.and_false,
        Bool.false_eq_true, if_false, outcome_pure]
    · have ht : t.lost ≠ 0 := fun h => hs (hlost.2 h)
      cases needed with
      | false => rfl
      | true =>
        simp only [ne_eq, hs, ht, not_false_eq_true, decide_true, Bool.and_true, if_true]
        rfl

end Action.Blind
end AmbientBundle
