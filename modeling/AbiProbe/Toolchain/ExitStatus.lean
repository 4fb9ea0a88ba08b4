import AbiProbe.Text.Decimal

/-! # How a command ended

A command ends with an exit code or is killed by a signal. Only exit code zero is a success.
-/

namespace AbiProbe

/-- How a command ended. -/
inductive ExitStatus
  /-- The command ended with an exit code. -/
  | code (number : UInt8)
  /-- A signal killed the command, with or without a core dump. -/
  | signal (number : Nat) (core : Bool)
deriving DecidableEq, Repr

namespace ExitStatus

/-- Whether a command did what it was asked to. -/
def isSuccess (status : ExitStatus) : Bool :=
  status = .code 0

@[simp]
theorem isSuccess_iff {status : ExitStatus} : status.isSuccess = true ↔ status = .code 0 :=
  decide_eq_true_iff

/-- The names of the standard signals, from the first on. -/
def signalNames : List String :=
  ["SIGHUP", "SIGINT", "SIGQUIT", "SIGILL", "SIGTRAP", "SIGABRT", "SIGBUS", "SIGFPE", "SIGKILL",
    "SIGUSR1", "SIGSEGV", "SIGUSR2", "SIGPIPE", "SIGALRM", "SIGTERM", "SIGSTKFLT", "SIGCHLD",
    "SIGCONT", "SIGSTOP", "SIGTSTP", "SIGTTIN", "SIGTTOU", "SIGURG", "SIGXCPU", "SIGXFSZ",
    "SIGVTALRM", "SIGPROF", "SIGWINCH", "SIGIO", "SIGPWR", "SIGSYS"]

/-- The name of a signal; the real-time signals have none. -/
def signalName? : Nat → Option String
  | 0 => none
  | index + 1 => signalNames[index]?

/-- How a command ended, in the words of a diagnostic. -/
def text : ExitStatus → String
  | code number => "exit status: " ++ Text.Decimal.ofNat number.toNat
  | signal number core =>
      "signal: " ++ Text.Decimal.ofNat number ++
        ((signalName? number).map fun name => " (" ++ name ++ ")").getD "" ++
        (if core then " (core dumped)" else "")

end ExitStatus

end AbiProbe
