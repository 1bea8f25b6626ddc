import AmbientBundle.Fault
import AmbientBundle.Text.Blank

/-!
# The journal

A run keeps a journal.  Every record has a level, the name of the part that wrote it and a message.
A record whose level reaches the level of the journal is handed to each of its *handlers*, and a
handler writes it if it also reaches the level of the handler.  There are handlers for the console
and for a log file.

A part belongs to the tool by its name.  The parent of a part is found at a dot of its name: what is
in front of that dot is the name of the parent.  Dots are looked at from the last one on, but a dot
right in front of one that was looked at is passed over, so that a part whose name has an empty
piece may be on its own.  Such a part has none of the handlers, and only its warnings and worse are
seen.

Configuring a journal sets its level, removes and closes the handlers it has, one after the other,
and then adds new ones: one for the console, and one for a log file if that is wanted and can be
opened.  No part has handlers of its own, and a journal without any shows only warnings and worse on
the console, and only their messages.

A log file is open as long as it has a handler and is known by its place.  Once that file has been
removed, its records are lost, as they are for anyone who still holds such a file, and a new file at
the same place gets none of them.  A log file holds UTF-8.  A line that has none is not written to
it, and the console says that something went wrong.
-/

namespace AmbientBundle

/-- How much a record matters. -/
abbrev Level := Int

namespace Level

/-- Details for finding a fault. -/
def debug : Level := 10

/-- Progress. -/
def verbose : Level := 15

/-- What a user wants to know. -/
def info : Level := 20

/-- Something is not as it should be. -/
def warning : Level := 30

/-- Something failed. -/
def error : Level := 40

/-- The name of a level in log lines. -/
def name (n : Level) : String :=
  if n = 10 then "DEBUG"
  else if n = 15 then "VERBOSE"
  else if n = 20 then "INFO"
  else if n = 30 then "WARNING"
  else if n = 40 then "ERROR"
  else if n = 50 then "CRITICAL"
  else if n = 0 then "NOTSET"
  else "Level " ++ toString n

/-- The levels a user can name. -/
def table : List (Text × Level) :=
  [("error".toList, error), ("warn".toList, warning), ("info".toList, info),
    ("verbose".toList, verbose), ("debug".toList, debug), ("silly".toList, debug)]

/-- The level of a word. -/
def find? (word : Text) : Option Level := table.lookup word

/-- The level a user asks for.  Case and white space around the word do not matter, and a
word that is no level asks for `info`. -/
def ofWord (word : Text) : Level := (find? (Text.lower (Text.strip word))).getD info

end Level

/-- The name at the top of all parts. -/
def toolName : String := "dtsbundle"

/-- The full name of a part. -/
def partName (part : String) : String :=
  if part = "" then toolName else toolName ++ "." ++ part

/-- Whether the tool is found in front of a dot of a name, given backwards. -/
def isBelow : Text → Bool
  | c :: d :: rest =>
      if c = '.' then d :: rest == toolName.toList.reverse || isBelow rest else isBelow (d :: rest)
  | _ => false

/-- Whether the part with a name belongs to the tool.  No part is taken to have a name that ends in
a dot, as it could come between the two. -/
def isPart (name : String) : Bool := name == toolName || isBelow name.toList.reverse

/-- One line of a journal. -/
structure Record where
  /-- How much it matters. -/
  level : Level
  /-- The full name of the part that wrote it. -/
  part : String
  /-- What it says. -/
  message : String
  deriving DecidableEq, Repr

/-- A line on the console. -/
def Record.consoleLine (r : Record) : String :=
  "[" ++ toolName ++ "] " ++ r.level.name ++ " " ++ r.message ++ "\n"

/-- What is on the console without a handler. -/
def Record.bareLine (r : Record) : String :=
  if r.level < Level.warning then "" else r.message ++ "\n"

/-- A line in a log file, given the time. -/
def Record.fileLine (r : Record) (stamp : String) : String :=
  stamp ++ " " ++ r.level.name ++ " " ++ r.part ++ ": " ++ r.message ++ "\n"

/-! ## Handlers -/

/-- A log file that is open. -/
structure LogFile where
  /-- Its place. -/
  place : List Text
  /-- Whether it has been removed since it was opened. -/
  gone : Bool := false
  deriving DecidableEq, Repr

/-- Add bytes to the end of a log file, if it is still there. -/
def LogFile.append (f : LogFile) (more : Bytes) (tree : Folder) : Folder :=
  match f.gone, tree.get? f.place with
  | false, some (.file content mode) => tree.put f.place (.file (mode.kept (content ++ more)) mode)
  | _, _ => tree

/-- Where a handler writes. -/
inductive Sink where
  /-- To the console. -/
  | console
  /-- To a log file. -/
  | file (f : LogFile)
  deriving DecidableEq, Repr

/-- What records are handed to. -/
structure Handler where
  /-- The least level that it writes. -/
  level : Level
  /-- Where it writes. -/
  sink : Sink
  deriving DecidableEq, Repr

namespace Handler

/-- The log file of a handler. -/
def file? (h : Handler) : Option LogFile :=
  match h.sink with
  | .console => none
  | .file f => some f

/-- Notice whether the log file of a handler is still in a tree. -/
def follow (tree : Folder) (h : Handler) : Handler :=
  match h.sink with
  | .console => h
  | .file f => { h with sink := .file { f with gone := f.gone || !tree.hasFile f.place } }

/-- What the console says if a line cannot be written to a log file. -/
def complaint : String := "--- Logging error ---\n"

/-- Hand over a record, given what is on the console and the tree. -/
def emit (halves : Halves) (stamp : String) (r : Record) (out : String × Folder) (h : Handler) :
    String × Folder :=
  if r.level < h.level then out
  else
    match h.sink with
    | .console => (out.1 ++ r.consoleLine, out.2)
    | .file f =>
        match halves.encode? (r.fileLine stamp).toList with
        | some more => (out.1, f.append more out.2)
        | none => (out.1 ++ complaint, out.2)

end Handler

/-! ## Journals -/

/-- A journal and where it goes. -/
structure Journal where
  /-- Everything that was recorded, oldest first. -/
  records : List Record := []
  /-- What was written to the console. -/
  console : String := ""
  /-- Its level, once it is configured. -/
  level : Option Level := none
  /-- Its handlers. -/
  handlers : List Handler := []
  /-- The log files that were closed, oldest first. -/
  closed : List LogFile := []
  deriving DecidableEq, Repr

namespace Journal

/-- The log files that are open. -/
def files (j : Journal) : List LogFile := j.handlers.filterMap Handler.file?

/-- What becomes of the console and the tree where a record is handed over. -/
def hand (j : Journal) (halves : Halves) (stamp : String) (r : Record) (tree : Folder) :
    String × Folder :=
  if !isPart r.part then (j.console ++ r.bareLine, tree)
  else if r.level < j.level.getD Level.warning then (j.console, tree)
  else if j.handlers.isEmpty then (j.console ++ r.bareLine, tree)
  else j.handlers.foldl (Handler.emit halves stamp r) (j.console, tree)

/-- Keep a record and write it where it goes. -/
def write (j : Journal) (halves : Halves) (stamp : String) (r : Record) (tree : Folder) :
    Journal × Folder :=
  let (console, tree) := j.hand halves stamp r tree
  ({ j with records := j.records ++ [r], console }, tree)

/-- Notice which open log files are still in a tree. -/
def follow (j : Journal) (tree : Folder) : Journal :=
  { j with handlers := j.handlers.map (Handler.follow tree) }

/-! ## Configuring -/

/-- Remove a handler and close it. -/
def drop (j : Journal) (h : Handler) : Journal :=
  { j with handlers := j.handlers.erase h, closed := j.closed ++ h.file?.toList }

/-- Remove and close all handlers, one after the other. -/
def reset (j : Journal) : Journal := j.handlers.foldl drop j

/-- Add a handler. -/
def add (j : Journal) (h : Handler) : Journal := { j with handlers := j.handlers ++ [h] }

/-- Open a log file for writing at its end; a new one is made where there was none. -/
def openFile (halves : Halves) (tree : Folder) (cwd p : Path) : Except Fault (LogFile × Folder) :=
  let full := Path.under cwd p
  match full.fault? halves with
  | some f => .error f
  | none =>
      match tree.readFile ⟨[], 0⟩ full with
      | .ok _ => .ok (⟨full.parts, false⟩, tree)
      | .error _ =>
          match tree.writeFile ⟨[], 0⟩ full [] with
          | .ok made => .ok (⟨full.parts, false⟩, made)
          | .error e => .error (.os e)

/-- Set the level, close the old handlers and add new ones.  Where a log file is wanted and cannot
be opened the console stays as the only place. -/
def configure (j : Journal) (halves : Halves) (level : Level) (cwd : Path) (logFile : Option Path)
    (tree : Folder) : Except Fault Unit × Journal × Folder :=
  let j' := ({ j with level := some level }.reset).add ⟨level, .console⟩
  match logFile with
  | none => (.ok (), j', tree)
  | some p =>
      match openFile halves tree cwd p with
      | .error e => (.error e, j', tree)
      | .ok (file, made) => (.ok (), j'.add ⟨level, .file file⟩, made)

end Journal
end AmbientBundle
