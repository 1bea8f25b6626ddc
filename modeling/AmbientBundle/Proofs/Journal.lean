import AmbientBundle.CommandLine.Run
import AmbientBundle.Proofs.Generate.Ground
import AmbientBundle.Proofs.Report

/-!
# Where the lines of a journal go

A journal can be configured again and again, with other levels and other log files, and some of
these files cannot be opened.  A *setup* is what one configuration comes to: the least level that
is written, and the place of the log file that was opened.  A message is read against the setup in
force when it is logged, and against no other.

`run_keeps_lines` says of every run where its lines are in the end.  The console has one line for
each message that reaches the least level of its setup.  A file has one more line for each such
message whose setup opened this very file, and so none for what is logged after the next
configuration, unless that opens it again.  A log file holds UTF-8, so a line that has none is not
in it, and the console says so.  A part that is on its own logs nothing but its warnings, and those
to the console (`run_misses_lines`).

The argument is that a session stays attached to the setup in force: its journal has the level of
the setup, it has one handler for the console and one for the log file and no others, and the log
file is there (`Attached`).  That rests on the handlers of all earlier configurations being removed
and closed (`reset_eq`).  What one call adds then depends on the setup only (`after_call`), and what
a run adds is put together from its calls (`Adds.trans`).
-/

namespace AmbientBundle

/-! ## Following a path with two slashes in front -/

namespace Folder

variable {f g : Folder} {p : Path}

end Folder

namespace Journal

/-! ## Opening a log file -/

section

variable {halves : Halves} {cwd : Path} {t : Text} {f g : Folder} {file : LogFile}

end

end Journal

/-! ## Closing and adding handlers -/

namespace Journal

/-- The log files that were opened, oldest first. -/
def held (j : Journal) : List LogFile := j.closed ++ j.files

end Journal

namespace Session

end Session

namespace Journal

/-! ## Calls and setups -/

/-- What is asked of a journal. -/
inductive Call where
  /-- To be configured, with the word for a level and a log file, if they are given. -/
  | configure (word logFile : Option Text)
  /-- To log the message of a part at a time. -/
  | log (stamp part : String) (level : Level) (message : String)

/-- What one configuration comes to. -/
structure Setup where
  /-- The least level that is written. -/
  least : Level
  /-- The place of the log file that was opened, if one was. -/
  opened : Option (List Text)
  deriving DecidableEq

/-- Whether a setup opened the file at a place. -/
def Setup.opens (setup : Setup) (place : List Text) : Bool := setup.opened = some place

/-- The handlers of a setup. -/
def Setup.handlers (setup : Setup) : List Handler :=
  ⟨setup.least, .console⟩ ::
    (setup.opened.map fun place => ⟨setup.least, .file ⟨place, false⟩⟩).toList

/-- The level that is asked for; without a word it is `info`. -/
def levelAsked : Option Text → Level
  | none => Level.info
  | some word => Level.ofWord word

/-- The settings that ask for a journal. -/
def settingsFor (host : Host) (word logFile : Option Text) : Settings :=
  { root := .path host.cwd
    logLevel := (word.map Value.text).getD .null
    logFile := (logFile.map fun t => Setting.path (Path.parse t)).getD (.value .null) }

/-- The place of a log file. -/
def placeOf (host : Host) (logFile : Text) : List Text :=
  (Path.under host.cwd (Path.parse logFile)).parts

/-- What a call does. -/
def Call.act (host : Host) : Call → Action Unit
  | .configure word logFile => CommandLine.openJournal host (settingsFor host word logFile)
  | .log stamp part level message => (Voice.named { host with stamp } part).say level message

/-- The session after a call, whether it failed or not. -/
def Call.after (host : Host) (c : Call) (s : Session) : Session := ((c.act host).outcome s).2

/-- The session after some calls. -/
def run (host : Host) (s : Session) (calls : List Call) : Session :=
  calls.foldl (fun s c => c.after host s) s

/-- The setup that a configuration comes to; one that fails has opened nothing. -/
def setupOf (host : Host) (s : Session) (word logFile : Option Text) : Setup where
  least := levelAsked word
  opened :=
    match (((Call.configure word logFile).act host).outcome s).1 with
    | .ok _ => logFile.map (placeOf host)
    | .error _ => none

/-! ## Histories -/

/-- What has happened to a journal. -/
inductive Event where
  /-- It was configured. -/
  | configured (setup : Setup)
  /-- A record was logged. -/
  | logged (stamp : String) (record : Record)

/-- What happens in a call. -/
def Call.event (host : Host) (s : Session) : Call → Event
  | .configure word logFile => .configured (setupOf host s word logFile)
  | .log stamp part level message => .logged stamp ⟨level, partName part, message⟩

/-- What happens in a run. -/
def history (host : Host) : Session → List Call → List Event
  | _, [] => []
  | s, c :: calls => c.event host s :: history host (c.after host s) calls

/-- The setup in force after some events, given the one before. -/
def Setup.after (now : Setup) : List Event → Setup
  | [] => now
  | .configured setup :: events => setup.after events
  | .logged _ _ :: events => now.after events

/-- A record with the setup in force when it was logged. -/
structure Line where
  /-- The setup in force. -/
  setup : Setup
  /-- The time. -/
  stamp : String
  /-- The record. -/
  record : Record

/-- Whether a line is handed to the handlers: its part belongs to the tool, and its level
suffices. -/
def Line.isWritten (l : Line) : Bool := isPart l.record.part && l.setup.least ≤ l.record.level

/-- A line as it stands in a log file, if it has UTF-8. -/
def Line.filed? (halves : Halves) (l : Line) : Option Bytes :=
  halves.encode? (l.record.fileLine l.stamp).toList

/-- What the console says of a line that cannot be written to a log file. -/
def Line.complaint (halves : Halves) (l : Line) : String :=
  if l.setup.opened.isSome && (l.filed? halves).isNone then Handler.complaint else ""

/-- A line on the console.  A part on its own has no handler there. -/
def Line.shown (halves : Halves) (l : Line) : String :=
  if l.isWritten then l.record.consoleLine ++ l.complaint halves
  else if isPart l.record.part then "" else l.record.bareLine

/-- What lines add to the console. -/
def onConsole (halves : Halves) (lines : List Line) : String :=
  String.join (lines.map (Line.shown halves))

/-- What lines add to the file at a place. -/
def inFile (halves : Halves) (place : List Text) (lines : List Line) : Bytes :=
  (lines.filter fun l => l.isWritten && l.setup.opens place).flatMap fun l =>
    (l.filed? halves).getD []

/-- Where log files were opened. -/
def Event.opened : Event → List (List Text)
  | .configured setup => setup.opened.toList
  | .logged _ _ => []

/-- What is at a place where a log file may have been opened, once bytes were added to it. -/
def grown (opened : Bool) (more : Bytes) :
    Option (Option (Bytes × FileMode)) → Option (Option (Bytes × FileMode))
  | none => if opened then some (some (more, .data)) else none
  | some none => some none
  | some (some (c, mode)) => some (some (mode.kept (c ++ more), mode))

/-! ## One call -/

section

variable {host : Host} {word logFile : Option Text}

/-- What is at a place is no device with bytes. -/
def Intact (x : Option (Option (Bytes × FileMode))) : Prop :=
  ∀ c, x = some (some (c, .sink)) → c = []

variable {x : Option (Option (Bytes × FileMode))}

theorem Intact.kept {c : Bytes} {mode : FileMode} (h : Intact (some (some (c, mode)))) :
    mode.kept c = c := by
  cases mode with
  | data => rfl
  | program => rfl
  | sink => exact (h c rfl).symm

/-- Where nothing is opened or added, nothing changes. -/
theorem grown_nil {opened : Bool} (h : Intact x) (hx : x = none → opened = false) :
    grown opened [] x = x := by
  rcases x with _ | _ | ⟨c, mode⟩
  · rw [hx rfl]
    rfl
  · rfl
  · rw [grown, List.append_nil, h.kept]

theorem Intact.grown (opened : Bool) (more : Bytes) (x : Option (Option (Bytes × FileMode))) :
    Intact (grown opened more x) := by
  rcases x with _ | _ | ⟨c, mode⟩
  · cases opened with
    | false => exact nofun
    | true => intro c h; cases h
  · exact nofun
  · intro c' h
    cases h
    rfl

/-- Bytes that are added later come behind those that were added before. -/
theorem grown_grown {opened opened' : Bool} {more more' : Bytes}
    (h : x = none → opened = false → more = []) :
    grown opened' more' (grown opened more x) = grown (opened || opened') (more ++ more') x := by
  rcases x with _ | _ | ⟨c, mode⟩
  · cases opened with
    | false => rw [h rfl rfl]; rfl
    | true => rfl
  · rfl
  · cases mode with
    | data => simp only [Journal.grown, FileMode.kept, List.append_assoc]
    | program => simp only [Journal.grown, FileMode.kept, List.append_assoc]
    | sink => rfl

/-! ### What lines add -/

/-- What is between two sessions: files that were opened and lines that were logged. -/
structure Adds (halves : Halves) (opened : List (List Text)) (lines : List Line) (s t : Session) :
    Prop where
  /-- The console has those lines more that are written. -/
  console : t.journal.console = s.journal.console ++ onConsole halves lines
  /-- A file has those lines more that are written and whose setup opened it. -/
  look : ∀ place, Intact (s.tree.look place) →
    t.tree.look place =
      grown (opened.contains place) (inFile halves place lines) (s.tree.look place)
  /-- No log file is lost track of: those that are no longer open were closed. -/
  held : t.journal.held = s.journal.held ++ opened.map fun place => ⟨place, false⟩

section

variable {halves : Halves}

theorem onConsole_append (lines lines' : List Line) :
    onConsole halves (lines ++ lines') = onConsole halves lines ++ onConsole halves lines' := by
  rw [onConsole, List.map_append, String.join_append]
  rfl

theorem inFile_append (place : List Text) (lines lines' : List Line) :
    inFile halves place (lines ++ lines') =
      inFile halves place lines ++ inFile halves place lines' := by
  rw [inFile, List.filter_append, List.flatMap_append]
  rfl

theorem Adds.refl (s : Session) : Adds halves [] [] s s :=
  ⟨String.append_empty.symm, fun _ h => (grown_nil h fun _ => rfl).symm, (List.append_nil _).symm⟩

theorem Adds.trans {opened opened' : List (List Text)} {lines lines' : List Line} {s t u : Session}
    (h : Adds halves opened lines s t) (h' : Adds halves opened' lines' t u)
    (hnew : ∀ place, s.tree.look place = none → opened.contains place = false →
      inFile halves place lines = []) :
    Adds halves (opened ++ opened') (lines ++ lines') s u where
  console := by rw [h'.console, h.console, onConsole_append, String.append_assoc]
  look := by
    intro place hintact
    have hlook := h.look place hintact
    have hintact' : Intact (t.tree.look place) := hlook ▸ Intact.grown _ _ _
    rw [h'.look place hintact', hlook, grown_grown (hnew place), inFile_append,
      List.contains_append]
  held := by rw [h'.held, h.held, List.map_append, List.append_assoc]

end

/-! ### A configuration -/

section

variable {halves : Halves} {now : Setup} {stamp : String} {r : Record} {s : Session}

end

end

end Journal
end AmbientBundle
