import AmbientBundle.Octets

/-!
# Signals

Signals have numbers and names.  Most of them end a program that does nothing about
them; a few do nothing.
-/

namespace AmbientBundle
namespace Shell
namespace Signal

/-- The names of the signals from the first one on. -/
def names : List String :=
  ["HUP", "INT", "QUIT", "ILL", "TRAP", "ABRT", "BUS", "FPE", "KILL", "USR1", "SEGV", "USR2", "PIPE",
    "ALRM", "TERM", "STKFLT", "CHLD", "CONT", "STOP", "TSTP", "TTIN", "TTOU", "URG", "XCPU", "XFSZ",
    "VTALRM", "PROF", "WINCH", "IO", "PWR", "SYS"]

/-- What is said of a program that a signal ended. -/
def titles : List (Nat × String) :=
  [(1, "Hangup"), (3, "Quit"), (4, "Illegal instruction"), (5, "Trace/breakpoint trap"),
    (6, "Aborted"), (7, "Bus error"), (8, "Floating point exception"), (9, "Killed"),
    (10, "User defined signal 1"), (11, "Segmentation fault"), (12, "User defined signal 2"),
    (14, "Alarm clock"), (15, "Terminated"), (16, "Stack fault"), (24, "CPU time limit exceeded"),
    (25, "File size limit exceeded"), (26, "Virtual timer expired"),
    (27, "Profiling timer expired"), (29, "I/O possible"), (30, "Power failure"),
    (31, "Bad system call")]

/-- What stands for the failure of a command; it is no signal. -/
def failure : Nat := 1000

/-- The number of a signal, by its name or its number; zero stands for the end of a shell. -/
def number? (t : Octets) : Option Nat :=
  match Octets.toNat? t with
  | some n => if n ≤ 64 then some n else none
  | none =>
      let upper := String.ofList (t.map Char.toUpper)
      let name := if upper.startsWith "SIG" then (upper.drop 3).toString else upper
      if name = "EXIT" then some 0
      else (names.findIdx? (· = name)).map (· + 1)

/-- The name of a signal. -/
def nameOf (n : Nat) : Octets :=
  if n = 0 then "EXIT".toList
  else if n = failure then "ERR".toList
  else ((names[n - 1]?).map String.toList).getD (Octets.ofNat n)

/-- Whether a signal does nothing unless something is done about it. -/
def isHarmless (n : Nat) : Bool := n = 0 || n = 17 || n = 18 || n = 23 || n = 28

/-- Whether nothing can be done about a signal. -/
def isCertain (n : Nat) : Bool := n = 9 || n = 19

end Signal
end Shell
end AmbientBundle
