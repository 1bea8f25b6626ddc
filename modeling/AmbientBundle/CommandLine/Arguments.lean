import AmbientBundle.CommandLine.Option
import AmbientBundle.Text.Digits
import AmbientBundle.Text.Quoted

/-!
# Arguments of the command line

Every argument is first classified: it is an option, a value, or the mark `--`, after
which there are only values.  A long option may be cut short as long as one option is
meant, its value may follow after `=`, and short options that take no value can be
joined.

Then the arguments are taken in order.  Options stand before the command, and the
command takes everything after it; it knows no option but `-h`.  What nobody takes is
reported at the end.
-/

namespace AmbientBundle
namespace CommandLine

/-- The mark that ends the options. -/
def markText : Text := ['-', '-']

/-- What is given for an option that takes a value. -/
inductive Given where
  /-- A text. -/
  | text (t : Text)
  /-- Nothing: the mark was written as the value, and the mark is no value. -/
  | nothing
  deriving DecidableEq, Repr

/-- What a written value gives. -/
def Given.ofText (t : Text) : Given := if t = markText then .nothing else .text t

/-- What the command line says. -/
structure Arguments where
  entry : Option Given := none
  root : Given := .text ['.']
  tmp : Option Given := none
  tsc : Option Given := none
  logLevel : Option Given := none
  verbose : Bool := false
  logFile : Option Given := none
  output : Option Given := none
  noAlias : Bool := false
  customAlias : Option Given := none
  template : Option Given := none
  force : Bool := false
  shake : Option Given := none
  testMode : Bool := false
  command : Text := []
  deriving DecidableEq, Repr

/-- Why a command line is not taken. -/
inductive Stop where
  /-- Help is asked for, about everything or about the command. -/
  | help (aboutCommand : Bool)
  /-- The command line is wrong, before or after the command. -/
  | wrong (afterCommand : Bool) (message : String)
  deriving DecidableEq, Repr

/-! ## Classifying -/

/-- What an argument is. -/
inductive Kind where
  /-- A value. -/
  | value
  /-- The mark `--`. -/
  | mark
  /-- An option under a spelling, with the value written behind it. -/
  | option (f : Flag) (spelling : Text) (explicit : Option Text)
  /-- Something that looks like an option and is none. -/
  | unknown
  deriving DecidableEq, Repr

/-- Cut a text at its first `=`. -/
def cutAtEquals (t : Text) : Text × Option Text :=
  match t.dropWhile (· ≠ '=') with
  | [] => (t, none)
  | _ :: rest => (t.takeWhile (· ≠ '='), some rest)

/-- The options that an argument may be short for. -/
def matching (table : Table) (arg : Text) : List (Flag × Text × Option Text) :=
  match arg with
  | '-' :: '-' :: _ =>
      let (front, explicit) := cutAtEquals arg
      (table.filter fun e => Text.startsWith e.1 front).map fun e => (e.2, e.1, explicit)
  | _ =>
      table.filterMap fun e =>
        if e.1 = arg.take 2 then some (e.2, e.1, some (arg.drop 2))
        else if Text.startsWith e.1 arg then some (e.2, e.1, none)
        else none

/-- Whether a text is a negative number, a line end behind it or not. -/
def isNegative (arg : Text) : Bool :=
  match (if arg.getLast? = some '\n' then arg.dropLast else arg) with
  | '-' :: t =>
      match t.dropWhile Text.isDecimalDigit with
      | [] => t ≠ []
      | '.' :: ds => ds ≠ [] && ds.all Text.isDecimalDigit
      | _ => false
  | _ => false

/-- Classify one argument.  It is wrong if several options are meant. -/
def classify (table : Table) (arg : Text) : Except String Kind :=
  if arg.head? ≠ some '-' then .ok .value
  else
    match table.lookup arg with
    | some f => .ok (.option f arg none)
    | none =>
        if arg.length = 1 then .ok .value
        else
          let (front, explicit) := cutAtEquals arg
          match explicit, table.lookup front with
          | some v, some f => .ok (.option f front (some v))
          | _, _ =>
              match matching table arg with
              | [(f, spelling, explicit)] => .ok (.option f spelling explicit)
              | [] =>
                  if isNegative arg || arg.contains ' ' then .ok .value else .ok .unknown
              | many =>
                  .error ("ambiguous option: " ++ Text.toString arg ++ " could match " ++
                    ", ".intercalate (many.map fun m => Text.toString m.2.1))

/-- Classify arguments; after the mark there are only values. -/
def classifyAll (table : Table) : List Text → Except String (List (Text × Kind))
  | [] => .ok []
  | arg :: rest =>
      if arg = markText then .ok ((arg, .mark) :: rest.map fun a => (a, .value))
      else
        match classify table arg with
        | .error e => .error e
        | .ok k =>
            match classifyAll table rest with
            | .error e => .error e
            | .ok more => .ok ((arg, k) :: more)

/-! ## Taking options -/

/-- A message about an option. -/
def about (f : Flag) (problem : String) : String := "argument " ++ f.name ++ ": " ++ problem

/-- The message about a value that is not one of some. -/
def notOneOf (value : Text) (choices : List Text) : String :=
  "invalid choice: " ++ Text.toString (Text.quote value) ++ " (choose from " ++
    ", ".intercalate (choices.map fun c => Text.toString (Text.quote c)) ++ ")"

/-- The message about a value that an option does not take. -/
def ignored (f : Flag) (v : Text) : String :=
  about f ("ignored explicit argument " ++ Text.toString (Text.quote v))

/-- The options joined in one argument: those before the last one, the last one, and the value
behind it if there is one. -/
def joined (table : Table) (f : Flag) (spelling : Text) :
    Text → Except String (List Flag × Flag × Option Text)
  | [] => if f.takesValue then .ok ([], f, some []) else .error (ignored f [])
  | c :: rest =>
      if f.takesValue then .ok ([], f, some (c :: rest))
      else if Text.startsWith spelling markText then .error (ignored f (c :: rest))
      else
        match table.lookup ['-', c], rest with
        | none, _ => .error (ignored f (c :: rest))
        | some g, [] => .ok ([f], g, none)
        | some g, d :: more =>
            match joined table g ['-', c] (d :: more) with
            | .error e => .error e
            | .ok (fs, last) => .ok (f :: fs, last)

/-- An option with its value, which follows if it is not behind it, and what comes after. -/
def valued (f : Flag) (v : Option Text) (rest : List (Text × Kind)) :
    Except String ((Flag × Text) × List (Text × Kind)) :=
  match v, f.takesValue, rest with
  | some v, _, _ => .ok ((f, v), rest)
  | none, false, _ => .ok ((f, []), rest)
  | none, true, (v, .value) :: rest => .ok ((f, v), rest)
  | none, true, _ => .error (about f "expected one argument")

/-- The options in one argument, each with its value, and what comes after. -/
def segment (table : Table) (f : Flag) (spelling : Text) (explicit : Option Text)
    (rest : List (Text × Kind)) : Except String (List (Flag × Text) × List (Text × Kind)) :=
  let split : Except String (List Flag × Flag × Option Text) :=
    match explicit with
    | none => .ok ([], f, none)
    | some v => joined table f spelling v
  match split with
  | .error e => .error e
  | .ok (fs, last, v) =>
      match valued last v rest with
      | .error e => .error e
      | .ok (taken, rest) => .ok (fs.map (fun f => (f, [])) ++ [taken], rest)

/-- Take one option. -/
def Arguments.take (a : Arguments) (f : Flag) (v : Text) : Except Stop Arguments :=
  let given := Given.ofText v
  match f with
  | .help => .error (.help false)
  | .entry => .ok { a with entry := some given }
  | .root => .ok { a with root := given }
  | .tmp => .ok { a with tmp := some given }
  | .tsc => .ok { a with tsc := some given }
  | .logLevel =>
      if given = .nothing ∨ levels.contains v then .ok { a with logLevel := some given }
      else .error (.wrong false (about f (notOneOf v levels)))
  | .verbose => .ok { a with verbose := true }
  | .logFile => .ok { a with logFile := some given }
  | .output => .ok { a with output := some given }
  | .noAlias => .ok { a with noAlias := true }
  | .customAlias => .ok { a with customAlias := some given }
  | .template => .ok { a with template := some given }
  | .force => .ok { a with force := true }
  | .shake => .ok { a with shake := some given }
  | .testMode => .ok { a with testMode := true }

/-- Take options one after the other. -/
def Arguments.takeAll (a : Arguments) : List (Flag × Text) → Except Stop Arguments
  | [] => .ok a
  | (f, v) :: rest =>
      match a.take f v with
      | .error e => .error e
      | .ok a => a.takeAll rest

/-! ## The command -/

/-- What is left over after the command, whose one option shows the help. -/
def leftOver : List (Text × Kind) → Except Stop (List Text)
  | [] => .ok []
  | (arg, kind) :: rest =>
      match kind with
      | .option f spelling explicit =>
          match segment commandTable f spelling explicit rest with
          | .error e => .error (.wrong true e)
          | .ok _ => .error (.help true)
      | _ =>
          match leftOver rest with
          | .error e => .error e
          | .ok more => .ok (arg :: more)

/-- The message about arguments that nobody takes. -/
def unrecognized (args : List Text) : String :=
  "unrecognized arguments: " ++ " ".intercalate (args.map Text.toString)

/-- Take the command and what follows it, given what was left over before. -/
def takeCommand (a : Arguments) (extras : List Text) (args : List Text) :
    Except Stop Arguments :=
  match args with
  | [] => .error (.wrong false "the following arguments are required: command")
  | c :: rest =>
      if !commands.contains c then
        .error (.wrong false ("argument command: " ++ notOneOf c commands))
      else
        match classifyAll commandTable rest with
        | .error e => .error (.wrong true e)
        | .ok classified =>
            match leftOver classified with
            | .error e => .error e
            | .ok more =>
                if extras ++ more = [] then .ok { a with command := c }
                else .error (.wrong false (unrecognized (extras ++ more)))

/-- Take arguments in order, given what was left over so far.  Each step uses up one of a
number of steps that is larger than there are arguments. -/
def takeFrom : Nat → Arguments → List Text → List (Text × Kind) → Except Stop Arguments
  | 0, a, extras, _ => takeCommand a extras []
  | _ + 1, a, extras, [] => takeCommand a extras []
  | steps + 1, a, extras, (arg, kind) :: rest =>
      match kind with
      | .unknown => takeFrom steps a (extras ++ [arg]) rest
      | .option f spelling explicit =>
          match segment mainTable f spelling explicit rest with
          | .error e => .error (.wrong false e)
          | .ok (options, rest) =>
              match a.takeAll options with
              | .error e => .error e
              | .ok a => takeFrom steps a extras rest
      | .value => takeCommand a extras (arg :: rest.map Prod.fst)
      | .mark => takeCommand a extras (if rest = [] then [] else arg :: rest.map Prod.fst)

/-- Read a command line. -/
def Arguments.parse (argv : List Text) : Except Stop Arguments :=
  match classifyAll mainTable argv with
  | .error e => .error (.wrong false e)
  | .ok classified => takeFrom (argv.length + 1) {} [] classified

end CommandLine
end AmbientBundle
