import AmbientBundle.Proofs.Effects
import AmbientBundle.Proofs.Generate.Ground
import AmbientBundle.Proofs.Words

/-!
# Commands as they are reported and run

The words of a command come from a line of options, and go to the journal as a line again.
Options that were written as a line are the last words of the command, and the line in the
journal is read back as the words of the program that was started (`compile_words`).
-/

namespace AmbientBundle

/-! ## What a run has added -/

/-- Nothing of the journal is lost, and these are the programs that were started. -/
structure Session.Since (records : List Record) (launches : List Launch) (s : Session) : Prop where
  /-- Records were only added. -/
  records : records <+: s.journal.records
  /-- The programs that were started. -/
  launches : s.launches = launches

namespace Session.Since

variable {records : List Record} {launches : List Launch}

theorem withTree {s : Session} (h : s.Since records launches) (host : Host) (tree : Folder) :
    (s.withTree host tree).Since records launches :=
  ⟨h.records, h.launches⟩

/-- A message is one more record. -/
theorem keeps_say (v : Voice) (level : Level) (message : String) :
    (v.say level message).Keeps (Session.Since records launches) :=
  fun _ h => ⟨h.records.trans (List.prefix_append _ _), h.launches⟩

end Session.Since

namespace Compiler

variable {records : List Record} {launches : List Launch}

/-- Starting a program adds it to those that were started. -/
theorem ensures_launch (c : Compiler) (l : Launch) :
    (c.launch l).Ensures (Session.Since records launches)
      (fun _ => Session.Since records (launches ++ [l]))
      fun _ => Session.Since records (launches ++ [l]) := by
  rw [launch]
  refine .bind (Q := fun _ => Session.Since records (launches ++ [l]))
    (.modify fun s h => ?_) fun _ =>
      .bind (Q := fun _ => Session.Since records (launches ++ [l]))
        (.onTree fun s h => ?_) fun r => .ofExcept r
  · exact ⟨h.records, congrArg (· ++ [l]) h.launches⟩
  · exact h.withTree _ _

/-- After the end of a program there are records only. -/
theorem ensures_conclude (c : Compiler) (o : Outcome) :
    (c.conclude o).Keeps (Session.Since records launches) := by
  have hlast : Action.Keeps (Session.Since records launches) (do
      c.voice.verbose "Per-file typings have been generated using TSC!"
      pure o) :=
    .bind (Session.Since.keeps_say _ _ _) fun _ => .pure fun _ => id
  have hshown : Action.Keeps (Session.Since records launches) (do
      if !Text.isAllBlank o.output then c.voice.info (Text.toString (Text.stripEnd o.output))
      c.voice.verbose "Per-file typings have been generated using TSC!"
      pure o) := by
    split
    · exact .bind (Session.Since.keeps_say _ _ _) fun _ => hlast
    · exact hlast
  rw [conclude]
  cases o.success with
  | false => exact .bind (Q := fun _ _ => False) (.throw fun _ => id) fun _ => fun _ h => h.elim
  | true => exact hshown

theorem ensures_run (c : Compiler) (l : Launch) :
    (c.run l).Ensures (Session.Since records launches)
      (fun _ => Session.Since records (launches ++ [l]))
      fun _ => Session.Since records (launches ++ [l]) :=
  .bind (c.ensures_launch l) fun o => c.ensures_conclude o

/-- Announcing a command adds two records, and the second one is its line. -/
theorem outcome_announce {c : Compiler} {dir : Path} {options : Value} {words : List Text}
    (h : command c.executable dir options = .ok words) (s : Session) :
    ∃ s', (c.announce dir options).outcome s = (.ok words, s') ∧
      s'.journal.records = s.journal.records ++
        [⟨Level.verbose, c.voice.part, "Generating per-file typings using TSC..."⟩,
          ⟨Level.debug, c.voice.part, Text.toString (Words.join words)⟩] ∧
      s'.launches = s.launches := by
  rw [announce, h]
  refine ⟨_, rfl, ?_, rfl⟩
  exact List.append_assoc _ _ _

/-- Options given as words are the last words of the command. -/
theorem command_join (executable : Text) (dir : Path) (options : List Text) :
    command executable dir (.text (Words.join options)) =
      .ok (baseCommand executable dir ++ options) := by
  rw [command, commandOf, Words.split_join]
  by_cases hnil : options = []
  · rw [if_pos (Words.isAllBlank_join.2 hnil), hnil, List.append_nil]
  · rw [if_neg fun h => hnil (Words.isAllBlank_join.1 h)]

/-- Options that were written as a line come after the five fixed words as they were, and for any
options that are taken the line in the journal is read back as the words of the program that is
started. -/
theorem compile_words (c : Compiler) (cwd dir : Path) :
    (∀ options, command c.executable dir (.text (Words.join options)) =
      .ok ([c.executable, "--declaration".toList, "--emitDeclarationOnly".toList,
        "--declarationDir".toList, dir.toText] ++ options)) ∧
    ∀ options words, command c.executable dir options = .ok words →
      ∀ s, ∃ line l more,
        ((c.compile cwd dir options).outcome s).2.journal.records = s.journal.records ++
          [⟨Level.verbose, c.voice.part, "Generating per-file typings using TSC..."⟩,
            ⟨Level.debug, c.voice.part, line⟩] ++ more ∧
        ((c.compile cwd dir options).outcome s).2.launches = s.launches ++ [l] ∧
        l.words = words ∧ Words.split line.toList = .ok words := by
  refine ⟨command_join c.executable dir, fun options words hwords s => ?_⟩
  obtain ⟨s', hannounce, hrecords, hlaunches⟩ := outcome_announce hwords s
  have hcompile : (c.compile cwd dir options).outcome s =
      (c.run (c.launchIn cwd words)).outcome s' := Action.outcome_bind_ok hannounce
  have hsince : ((c.run (c.launchIn cwd words)).outcome s').2.Since s'.journal.records
      (s'.launches ++ [c.launchIn cwd words]) := by
    have hrun := c.ensures_run (c.launchIn cwd words) s' ⟨List.prefix_rfl, rfl⟩
    rcases houtcome : (c.run (c.launchIn cwd words)).outcome s' with ⟨r, s''⟩
    rw [houtcome] at hrun
    cases r with
    | ok o => exact hrun
    | error f => exact hrun
  obtain ⟨more, hmore⟩ := hsince.records
  refine ⟨Text.toString (Words.join words), c.launchIn cwd words, more, ?_, ?_, rfl, ?_⟩
  · rw [hcompile, ← hmore, hrecords]
  · rw [hcompile, hsince.launches, hlaunches]
  · rw [Text.toString, String.toList_ofList, Words.split_join]

/-- Options with an empty word, and with words that hold a blank, a quote and a line end. -/
def awkwardLine : Text := Text.ofString "--paths 'a b' '' it\\'s \"x\ny\""

/-- The words of the command with these options. -/
def awkwardCommand : List Text :=
  baseCommand "tsc".toList Sample.scratch ++
    ["--paths".toList, "a b".toList, [], "it's".toList, "x\ny".toList]

/-- The compiler of the sample package is started with these words, and the line in the journal
is read back as them. -/
theorem compile_words_awkward :
    command "tsc".toList Sample.scratch (.text awkwardLine) = .ok awkwardCommand ∧
    ∃ line l more,
      (((Sample.generator 0).compiler.compile ⟨.root, ["pkg".toList]⟩ Sample.scratch
          (.text awkwardLine)).outcome { tree := Sample.tree }).2.journal.records =
        [⟨Level.verbose, "dtsbundle.compiler", "Generating per-file typings using TSC..."⟩,
          ⟨Level.debug, "dtsbundle.compiler", line⟩] ++ more ∧
      (((Sample.generator 0).compiler.compile ⟨.root, ["pkg".toList]⟩ Sample.scratch
          (.text awkwardLine)).outcome { tree := Sample.tree }).2.launches = [l] ∧
      l.words = awkwardCommand ∧ Words.split line.toList = .ok awkwardCommand := by
  have hcommand : command "tsc".toList Sample.scratch (.text awkwardLine) = .ok awkwardCommand := by
    decide
  exact ⟨hcommand, (compile_words (Sample.generator 0).compiler ⟨.root, ["pkg".toList]⟩
    Sample.scratch).2 _ _ hcommand { tree := Sample.tree }⟩

end Compiler
end AmbientBundle
