
namespace Acceptance

-- How a process came to its end, and the text that says so.

inductive Completion where
  | timedOut
  | exited (code : Nat)
  | signaled (signal : Nat) (dumped : Bool)
  | stopped (signal : Nat)
  | continued
  | unrecognized (status : Int)
  deriving DecidableEq, Repr

namespace Completion

-- What a wait status of the operating system says. The low seven bits tell an exit from a signal;
-- the next byte holds the code.
def ofWaitStatus (status : Int) : Completion :=
  let bits := (status % UInt32.size).toNat
  let low := bits % 128
  let code := bits / 256 % 256
  if low = 0 then .exited code
  else if low < 127 then .signaled low (bits / 128 % 2 = 1)
  else if bits % 256 = 127 then .stopped code
  else if bits = 65535 then .continued
  else .unrecognized status

def signalNames : List String := [
  "SIGHUP", "SIGINT", "SIGQUIT", "SIGILL", "SIGTRAP", "SIGABRT", "SIGBUS", "SIGFPE", "SIGKILL",
  "SIGUSR1", "SIGSEGV", "SIGUSR2", "SIGPIPE", "SIGALRM", "SIGTERM", "SIGSTKFLT", "SIGCHLD",
  "SIGCONT", "SIGSTOP", "SIGTSTP", "SIGTTIN", "SIGTTOU", "SIGURG", "SIGXCPU", "SIGXFSZ",
  "SIGVTALRM", "SIGPROF", "SIGWINCH", "SIGIO", "SIGPWR", "SIGSYS"
]

def signalText (signal : Nat) : String :=
  match signalNames[signal - 1]? with
  | some name => if signal = 0 then "0" else s!"{signal} ({name})"
  | none => toString signal

def text : Completion → String
  | .timedOut => "timed out"
  | .exited code => s!"exit status: {code}"
  | .signaled signal dumped =>
      "signal: " ++ signalText signal ++ (if dumped then " (core dumped)" else "")
  | .stopped signal => "stopped (not terminated) by signal: " ++ signalText signal
  | .continued => "continued (WIFCONTINUED)"
  | .unrecognized status =>
      s!"unrecognised wait status: {status} 0x" ++
        String.ofList (Nat.toDigits 16 (status % UInt32.size).toNat)

def isSuccess (completion : Completion) : Bool := completion == .exited 0

end Completion
end Acceptance
