/-
  The classic signals, numbers 1 to 31.
-/

namespace Interposition

/-- A classic signal. -/
inductive Signal
  | hup | int | quit | ill | trap | abrt | bus | fpe | kill | usr1 | segv | usr2 | pipe | alrm
  | term | stkflt | chld | cont | stop | tstp | ttin | ttou | urg | xcpu | xfsz | vtalrm | prof
  | winch | io | pwr | sys
deriving DecidableEq, Inhabited

namespace Signal

/-- Every classic signal in order of its number, with its name. -/
def named : List (Signal × String) :=
  [ (hup, "SIGHUP"), (int, "SIGINT"), (quit, "SIGQUIT"), (ill, "SIGILL"), (trap, "SIGTRAP"),
    (abrt, "SIGABRT"), (bus, "SIGBUS"), (fpe, "SIGFPE"), (kill, "SIGKILL"), (usr1, "SIGUSR1"),
    (segv, "SIGSEGV"), (usr2, "SIGUSR2"), (pipe, "SIGPIPE"), (alrm, "SIGALRM"),
    (term, "SIGTERM"), (stkflt, "SIGSTKFLT"), (chld, "SIGCHLD"), (cont, "SIGCONT"),
    (stop, "SIGSTOP"), (tstp, "SIGTSTP"), (ttin, "SIGTTIN"), (ttou, "SIGTTOU"),
    (urg, "SIGURG"), (xcpu, "SIGXCPU"), (xfsz, "SIGXFSZ"), (vtalrm, "SIGVTALRM"),
    (prof, "SIGPROF"), (winch, "SIGWINCH"), (io, "SIGIO"), (pwr, "SIGPWR"), (sys, "SIGSYS") ]

/-- The signal's number on the system. -/
def number (signal : Signal) : Int32 :=
  Int32.ofNat ((named.findIdx fun entry => entry.1 = signal) + 1)

/-- The signal with a given number, if the number is classic. -/
def ofNumber? (number : Int32) : Option Signal :=
  if number < 1 then none else (named[number.toInt.toNat - 1]?).map Prod.fst

/-- The signal's name. -/
def name (signal : Signal) : String := (named.lookup signal).getD ""

/-- The signal with a given name. -/
def ofName? (name : String) : Option Signal :=
  (named.find? fun entry => entry.2 = name).map Prod.fst

instance : ToString Signal := ⟨name⟩

/-- The signal that releases a gated cage. -/
def release : Signal := usr1

/-- The signal that stops a grate once its cage has exited. -/
def stopping : Signal := term

end Signal

end Interposition
