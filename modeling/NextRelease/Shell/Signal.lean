import NextRelease.Shell.Octets

/-!
Signals: their numbers, their names, and what one does to a process that did not ask for it.
-/

namespace NextRelease.Shell

def signalNames : List String :=
  ["HUP", "INT", "QUIT", "ILL", "TRAP", "ABRT", "BUS", "FPE", "KILL", "USR1", "SEGV", "USR2",
    "PIPE", "ALRM", "TERM", "16", "CHLD", "CONT", "STOP", "TSTP", "TTIN", "TTOU", "URG", "XCPU",
    "XFSZ", "VTALRM", "PROF", "WINCH", "IO", "PWR", "SYS", "32", "33", "RTMIN"] ++
  (List.range 15).map (fun n => "RTMIN+" ++ toString (n + 1)) ++
  ((List.range 14).map (fun n => "RTMAX-" ++ toString (n + 1))).reverse ++ ["RTMAX"]

def signalName (number : Nat) : String :=
  if number = 0 then "EXIT" else signalNames[number - 1]?.getD (toString number)

def signal? (least : Nat) (text : Octets) : Option Nat :=
  if isNumber text then
    let number := readNat text
    if number ≤ signalNames.length then some number else none
  else
    let name := String.ofList (text.map Char.toUpper)
    let numbers := (List.range (signalNames.length + 1)).filter (least ≤ ·)
    numbers.find? fun number => signalName number == name

def killSignal : Nat := 9

def interruptSignals : List Nat := [2, 3]

def harmlessSignals : List Nat := [0, 17, 18, 19, 20, 21, 22, 23, 28]

/-- What is said of a process that a signal ended; nothing for interrupts and broken pipes. -/
def signalText? : Nat → Option String
  | 1 => some "Hangup"
  | 2 | 13 => none
  | 3 => some "Quit"
  | 4 => some "Illegal instruction"
  | 5 => some "Trace/breakpoint trap"
  | 6 => some "Aborted"
  | 7 => some "Bus error"
  | 8 => some "Floating point exception"
  | 9 => some "Killed"
  | 10 => some "User defined signal 1"
  | 11 => some "Segmentation fault"
  | 12 => some "User defined signal 2"
  | 14 => some "Alarm clock"
  | 15 => some "Terminated"
  | 16 => some "Stack fault"
  | 24 => some "CPU time limit exceeded"
  | 25 => some "File size limit exceeded"
  | 26 => some "Virtual timer expired"
  | 27 => some "Profiling timer expired"
  | 29 => some "I/O possible"
  | 30 => some "Power failure"
  | 31 => some "Bad system call"
  | number => some ("Real-time signal " ++ toString (number - 34))

end NextRelease.Shell
