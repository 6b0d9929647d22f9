import Acceptance.Shell.Expansion

namespace Acceptance.Shell

open Action
open Kernel (Opening)

-- Redirections: opening what a command reads and writes, and putting everything back afterwards.

inductive Opened where
  | file (descriptor : Nat) (access : Access) (path : String)
  | copy (descriptor : Nat) (source : Option Nat)
  | document (descriptor : Nat) (text : String)

namespace Opened

def descriptor : Opened → Nat
  | .file descriptor _ _ | .copy descriptor _ | .document descriptor _ => descriptor

end Opened

abbrev Saved := List (Nat × Option Nat)

namespace Expander

variable (expander : Expander)

def redirect : Redirect → Action Opened
  | .file descriptor access name => do
      return .file descriptor access (← expander.text { tilde := true } name)
  | .copy descriptor source => do
      let text ← expander.text { tilde := true } source
      match text.toList with
      | ['-'] => return .copy descriptor none
      | [c] =>
          if c.isDigit then return .copy descriptor (some (c.toNat - 48))
          else fail "Syntax error: Bad fd number"
      | _ => fail "Syntax error: Bad fd number"
  | .document descriptor number => do
      let word := ((← get).documents.lookup number).getD []
      return .document descriptor (← expander.text { quoted := true } word)

end Expander

def reasonFor (short : String) (cause : IoError) : String :=
  if cause = .noEntry || cause = .notDirectory then short else cause.description

def openingOf : Access → Opening
  | .input => .forReading
  | .output | .force => .forWriting
  | .append => .forAppending
  | .both => { reads := true, writes := true, creates := true }

def openFile (access : Access) (path : String) : Action Nat := do
  let creates := access != .input
  let rich := (← get).dialect = .rich
  let failure (cause : IoError) : Action Nat :=
    if rich then failWith 1 (path ++ ": " ++ cause.description)
    else if creates then
      fail ("cannot create " ++ path ++ ": " ++ reasonFor "Directory nonexistent" cause)
    else fail ("cannot open " ++ path ++ ": " ++ reasonFor "No such file" cause)
  let opening ← if access = .output && (← hasOption "C") then
      match ← perform (.inspect path true) with
      | .ok status =>
          if status.kind = .file then
            let _ ← failure .alreadyExists
          pure { writes := true : Opening }
      | .error _ => pure { openingOf access with exclusive := true }
    else pure (openingOf access)
  match ← perform (.open path opening) with
  | .ok descriptor => return descriptor
  | .error cause => failure cause

-- A pipe that holds a text. What does not fit is written by a process of its own.
def openDocument (text : String) : Action Nat := do
  let (reader, writer) ← perform .pipe
  let bytes := Text.toBytes text.toList
  if bytes.length ≤ 4096 then
    let _ ← writeAll writer bytes
  else
    let feed : Kernel.Program Nat := do
      let _ ← Kernel.Program.call (.close reader)
      Kernel.rounds (fun _ => 0) (fun (rest : Text.Bytes) => do
        if rest.isEmpty then return .finished 0
        match ← Kernel.Program.call (.write writer rest) with
        | .ok count => return .again (rest.drop count)
        | .error _ => return .finished 0) Kernel.endless bytes
    let _ ← ExceptT.lift (StateT.lift (Kernel.Program.fork feed))
  let _ ← perform (.close writer)
  return reader

-- Keeps a descriptor under a number that programs do not see.
def saveDescriptor (descriptor : Nat) : Action (Option Nat) := do
  match ← perform (.duplicate descriptor 10 true) with
  | .ok number =>
      let _ ← perform (.close descriptor)
      return some number
  | .error _ => return none

def applyOne (saved : Option Saved) (opened : Opened) : Action (Bool × Option Saved) := do
  let descriptor := opened.descriptor
  let isSaved := saved.any fun list => list.any (·.1 == descriptor)
  let save : Action (Option Saved) := do
    match saved with
    | none => return none
    | some list =>
        if isSaved then return saved
        return some ((descriptor, ← saveDescriptor descriptor) :: list)
  let place (source : Except Stop Nat) : Action (Bool × Option Saved) := do
    match source with
    | .error _ => return (false, saved)
    | .ok source =>
        if source = descriptor then
          return (true, if isSaved then saved else saved.map ((descriptor, none) :: ·))
        let saved ← save
        let _ ← perform (.redirect source descriptor)
        let _ ← perform (.close source)
        return (true, saved)
  match opened with
  | .file _ access path => place (← attempt (openFile access path))
  | .document _ text => place (← attempt (openDocument text))
  | .copy _ none =>
      let saved ← save
      let _ ← perform (.close descriptor)
      return (true, saved)
  | .copy _ (some source) =>
      if source = descriptor then return (true, saved)
      let saved ← save
      match ← perform (.redirect source descriptor) with
      | .ok _ => return (true, saved)
      | .error cause =>
          warn (toString source ++ ": " ++ cause.description)
          setStatus 2
          return (false, saved)

def applyAll : Option Saved → List Opened → Action (Bool × Option Saved)
  | saved, [] => return (true, saved)
  | saved, opened :: rest => do
      match ← applyOne saved opened with
      | (true, saved) => applyAll saved rest
      | (false, saved) => return (false, saved)

def restoreAll (saved : Saved) : Action Unit :=
  saved.forM fun (descriptor, kept) => do
    match kept with
    | some number =>
        let _ ← perform (.redirect number descriptor)
        let _ ← perform (.close number)
    | none =>
        let _ ← perform (.close descriptor)

-- Forgets how descriptors were, so that they stay redirected.
def dropSaved (saved : Saved) : Action Unit :=
  saved.forM fun (_, kept) => do
    if let some number := kept then
      let _ ← perform (.close number)

end Acceptance.Shell
