import Acceptance.Format.Mode
import Acceptance.Format.Size
import Acceptance.Tools.Paths

namespace Acceptance.Tools

open Tool
open Kernel (Status Kind Opening rounds endless)

-- Tools that make, copy, move and remove files.

def depthLimit : Nat := 1000

inductive Copied where
  | complete
  | unread (cause : IoError)
  | unwritten (cause : IoError)

def copyBytes (source target : Nat) : Tool Copied :=
  rounds (fun _ => .complete) (fun _ => do
    match ← ask (.read source 131072) with
    | .error .interrupted => return .again ()
    | .error cause => return .finished (.unread cause)
    | .ok bytes =>
        if bytes.isEmpty then return .finished .complete
        match ← writeTo target (Text.ofBytes bytes) with
        | .ok _ => return .again ()
        | .error cause => return .finished (.unwritten cause)) endless ()

structure CopyStyle where
  deep : Bool := false
  force : Bool := false
  noClobber : Bool := false
  keepLinks : Bool := false
  keepMode : Bool := false
  verbose : Bool := false
  hardLinks : Bool := false
  symbolicLinks : Bool := false
  removeFirst : Bool := false
  mode : Option Nat := none

def permissions (mode : Nat) : Nat := mode % 0o10000

def copyFile (style : CopyStyle) (source target : String) (status : Status) : Tool Bool := do
  let announce : Tool Unit := do
    if style.verbose then say (quote source ++ " -> " ++ quote target ++ "\n")
  let failed (message : String) : Tool Bool := do
    fault message
    return false
  let old ← statusAt target true
  let there ← pathExists target false
  if style.noClobber && there then return true
  match old with
  | .ok existing =>
      if existing.kind = .directory then
        return ← failed ("cannot overwrite directory " ++ quote target ++ " with non-directory")
      if existing.identity = status.identity && !(style.removeFirst || style.hardLinks) then
        return ← failed (quote source ++ " and " ++ quote target ++ " are the same file")
  | .error _ =>
      if there && !style.force && !style.removeFirst && status.kind != .link then
        return ← failed ("not writing through dangling symlink " ++ quote target)
  if there && (style.removeFirst || (style.force && old.toOption.isNone) ||
      ((status.kind = .link || style.symbolicLinks || style.hardLinks) && style.force)) then
    let _ ← ask (.change (.remove target))
  if status.kind = .link && style.keepLinks then
    let link ← match ← ask (.readLink source) with
      | .ok text => pure text
      | .error _ => pure ""
    match ← ask (.change (.symlink link target)) with
    | .ok _ =>
        announce
        return true
    | .error cause =>
        failed ("cannot create symbolic link " ++ quote target ++ ": " ++ cause.description)
  else if style.hardLinks then
    match ← ask (.change (.link source target)) with
    | .ok _ =>
        announce
        return true
    | .error cause =>
        failed ("cannot create hard link " ++ quote target ++ " to " ++ quote source ++ ": " ++
          cause.description)
  else if style.symbolicLinks then
    match ← ask (.change (.symlink source target)) with
    | .ok _ =>
        announce
        return true
    | .error cause =>
        failed ("cannot create symbolic link " ++ quote target ++ " to " ++ quote source ++ ": " ++
          cause.description)
  else
    match ← ask (.open source .forReading) with
    | .error cause =>
        failed ("cannot open " ++ quote source ++ " for reading: " ++ cause.description)
    | .ok input =>
        let fresh := !(← pathExists target true)
        let opening : Opening := if fresh then
            { writes := true, creates := true, exclusive := true
              mode := permissions (style.mode.getD status.mode) }
          else { writes := true, truncates := true }
        match ← ask (.open target opening) with
        | .error cause =>
            closeInput input
            let cause := if fresh && target.endsWith "/" then IoError.notDirectory else cause
            failed ("cannot create regular file " ++ quote target ++ ": " ++ cause.description)
        | .ok output =>
            announce
            let copied ← copyBytes input output
            let _ ← ask (.close output)
            closeInput input
            if let some mode := (if style.keepMode then some status.mode else style.mode) then
              let _ ← ask (.change (.setMode target (permissions mode)))
            match copied with
            | .complete => return true
            | .unread cause =>
                failed ("error reading " ++ quote source ++ ": " ++ cause.description)
            | .unwritten cause =>
                failed ("error writing " ++ quote target ++ ": " ++ cause.description)

def copyAny (style : CopyStyle) : Nat → String → String → Tool Bool
  | 0, _, _ => return false
  | fuel + 1, source, target => do
      match ← statusAt source !style.keepLinks with
      | .error cause =>
          fault ("cannot stat " ++ quote source ++ ": " ++ cause.description)
          return false
      | .ok status =>
          if status.kind != .directory then copyFile style source target status
          else if !style.deep then
            fault ("-r not specified; omitting directory " ++ quote source)
            return false
          else
            let there ← statusAt target true
            let ready ← match there with
              | .ok existing =>
                  if existing.kind = .directory then pure true else do
                    fault ("cannot overwrite non-directory " ++ quote target ++
                      " with directory " ++ quote source)
                    pure false
              | .error _ =>
                  match ← ask (.change (.makeDirectory target)) with
                  | .ok _ =>
                      if style.verbose then
                        say (quote source ++ " -> " ++ quote target ++ "\n")
                      pure true
                  | .error cause => do
                      fault ("cannot create directory " ++ quote target ++ ": " ++
                        cause.description)
                      pure false
            if !ready then return false
            let made ← statusAt target true
            let inside := match made with
              | .ok made => made.identity
              | .error _ => ""
            let names ← namesIn source
            let results ← (names.toOption.getD []).mapM fun name => do
              let path := under source name
              -- The directory that is being made is not copied into itself.
              let own ← match ← statusAt path false with
                | .ok status => pure (status.identity == inside)
                | .error _ => pure false
              if own then
                fault ("cannot copy a directory, " ++ quote source ++ ", into itself, " ++
                  quote target)
                return false
              else copyAny { style with keepLinks := true } fuel path (under target name)
            return results.all id

inductive Destination where
  | path (target : String)
  | directory (target : String)

def destinationOf (given : Given) : Tool (List String × Destination) := do
  match given.value? "t" with
  | some directory =>
      if given.operands.isEmpty then misused "missing file operand"
      match ← statusAt directory true with
      | .ok status =>
          if status.kind != .directory then
            die ("target directory " ++ quote directory ++ ": " ++ IoError.notDirectory.description)
          return (given.operands, .directory directory)
      | .error cause => die ("target directory " ++ quote directory ++ ": " ++ cause.description)
  | none =>
      match given.operands.reverse with
      | [] => misused "missing file operand"
      | [only] => misused ("missing destination file operand after " ++ quote only)
      | target :: sources =>
          let sources := sources.reverse
          if given.has "T" then
            match sources with
            | [_] => return (sources, .path target)
            | _ => misused ("extra operand " ++ quote target)
          else
            match ← statusAt target true with
            | .ok status =>
                if status.kind = .directory then return (sources, .directory target)
                else if 1 < sources.length then
                  die ("target " ++ quote target ++ ": " ++ IoError.notDirectory.description)
                else return (sources, .path target)
            | .error cause =>
                if 1 < sources.length then
                  die ("target " ++ quote target ++ ": " ++ cause.description)
                else return (sources, .path target)

def Destination.of (destination : Destination) (source : String) : String :=
  match destination with
  | .path target => target
  | .directory target => under target (lastName source)

def Destination.itself (destination : Destination) : Tool Destination := do
  match destination with
  | .directory target =>
      match ← statusAt target false with
      | .ok status => return if status.kind = .link then .path target else .directory target
      | .error _ => return .directory target
  | .path target => return .path target

def cpTool (arguments : List String) : Tool Nat := do
  let given ← options
    [.flag 'a' ["archive"], .flag 'r' ["recursive"], .flag 'R' [], .flag 'f' ["force"],
      .flag 'i' ["interactive"], .flag 'n' ["no-clobber"], .flag 'p' [], .flag 'd' [],
      .flag 'L' ["dereference"], .flag 'P' ["no-dereference"], .flag 'H' [],
      .flag 'v' ["verbose"], .flag 'l' ["link"], .flag 's' ["symbolic-link"],
      .flag 'u' ["update"], .flag 'x' ["one-file-system"], .flag 'b' [], .flag 'T'
      ["no-target-directory"], .value 't' ["target-directory"], .longFlag "remove-destination",
      .longFlag "parents", .longAttached "preserve", .longAttached "reflink",
      .longAttached "backup", .longFlag "strip-trailing-slashes"] arguments
  let (sources, destination) ← destinationOf given
  let deep := given.has "r" || given.has "R" || given.has "a"
  let style : CopyStyle :=
    { deep, force := given.has "f", noClobber := given.has "n"
      keepLinks := match given.last? ["L", "P", "d", "a", "H"] with
        | some key => key == "P" || key == "d" || key == "a"
        | none => deep
      keepMode := given.has "p" || given.has "a" || given.has "preserve"
      verbose := given.has "v", hardLinks := given.has "l", symbolicLinks := given.has "s"
      removeFirst := given.has "remove-destination" }
  sources.forM fun source => do
    let _ ← copyAny style depthLimit (if given.has "strip-trailing-slashes" then trimPath source
      else source) (destination.of source)
  done

def installTool (arguments : List String) : Tool Nat := do
  let given ← options
    [.flag 'd' ["directory"], .flag 'D' [], .value 'm' ["mode"], .flag 'v' ["verbose"],
      .value 'o' ["owner"], .value 'g' ["group"], .flag 'p' ["preserve-timestamps"],
      .flag 's' ["strip"], .flag 'c' [], .flag 'C' ["compare"], .flag 'T'
      ["no-target-directory"], .value 't' ["target-directory"]] arguments
  let mode := ((given.value? "m").map fun text =>
    (Format.octal text.length text.toList).1).getD 0o755
  if given.has "d" then
    given.operands.forM fun path => do
      let _ ← ask (.change (.makeDirectory path))
    done
  else
    let (sources, destination) ← destinationOf given
    sources.forM fun source => do
      let _ ← copyAny { removeFirst := true, mode := some mode } depthLimit source
        (destination.of source)
    done

def removalFault (path : String) (cause : IoError) : Tool Unit :=
  fault ("cannot remove " ++ quote path ++ ": " ++ cause.description)

def removeAny (deep alone force verbose : Bool) : Nat → String → Tool Unit
  | 0, _ => return ()
  | fuel + 1, path => do
      match ← statusAt path false with
      | .error cause =>
          if force && (cause = .noEntry || cause = .notDirectory) then pure ()
          else removalFault path cause
      | .ok status =>
          if status.kind = .directory then
            if !deep && !alone then removalFault path .isDirectory
            else
              if deep then
                match ← namesIn path with
                | .ok names =>
                    names.forM fun name => removeAny deep alone force verbose fuel (under path name)
                | .error _ => pure ()
              match ← ask (.change (.removeDirectory path)) with
              | .ok _ => if verbose then say ("removed directory " ++ quote path ++ "\n")
              | .error cause => removalFault path cause
          else
            match ← ask (.change (.remove path)) with
            | .ok _ => if verbose then say ("removed " ++ quote path ++ "\n")
            | .error cause => removalFault path cause

def rmTool (arguments : List String) : Tool Nat := do
  let given ← options
    [.flag 'f' ["force"], .flag 'i' [], .flag 'I' [], .longAttached "interactive",
      .flag 'r' ["recursive"], .flag 'R' [], .flag 'd' ["dir"], .flag 'v' ["verbose"],
      .longFlag "one-file-system", .longFlag "no-preserve-root", .longAttached "preserve-root"]
    arguments
  let force := given.has "f"
  let deep := given.has "r" || given.has "R"
  if given.operands.isEmpty then
    if force then done else missingOperand
  else
    given.operands.forM fun path => do
      let name := lastName path
      if deep && (name = "." || name = "..") then
        fault ("refusing to remove '.' or '..' directory: skipping " ++ quote path)
      else removeAny deep (given.has "d") force (given.has "v") depthLimit path
    done

def removeEmpty (parents quiet verbose : Bool) : Nat → String → Tool Unit
  | 0, _ => return ()
  | fuel + 1, path => do
      if verbose then say ("rmdir: removing directory, " ++ quote path ++ "\n")
      match ← ask (.change (.removeDirectory path)) with
      | .ok _ =>
          let parent := parentOf path
          if parents && parent != "." && parent != "/" then
            removeEmpty parents quiet verbose fuel parent
      | .error cause =>
          if quiet && cause = .notEmpty then pure ()
          else fault ("failed to remove " ++ quote path ++ ": " ++ cause.description)

def rmdirTool (arguments : List String) : Tool Nat := do
  let given ← options [.flag 'p' ["parents"], .flag 'v' ["verbose"],
    .longFlag "ignore-fail-on-non-empty"] arguments
  if given.operands.isEmpty then missingOperand
  given.operands.forM fun path =>
    removeEmpty (given.has "p") (given.has "ignore-fail-on-non-empty") (given.has "v") 4096 path
  done

def unlinkTool (arguments : List String) : Tool Nat := do
  let given ← options [] arguments
  match given.operands with
  | [] => missingOperand
  | [path] =>
      match ← ask (.change (.remove path)) with
      | .ok _ => done
      | .error cause => die ("cannot unlink " ++ quote path ++ ": " ++ cause.description)
  | _ :: extra :: _ => extraOperand extra

def moveOne (given : Given) (source target : String) : Tool Unit := do
  match ← statusAt source false with
  | .error cause => fault ("cannot stat " ++ quote source ++ ": " ++ cause.description)
  | .ok status =>
      let old ← statusAt target false
      let same := match old with
        | .ok existing => existing.identity == status.identity
        | .error _ => false
      let oldIsDirectory ← isDirectory target
      if given.has "n" && old.toOption.isSome then pure ()
      else if same then fault (quote source ++ " and " ++ quote target ++ " are the same file")
      else if old.toOption.isSome && oldIsDirectory && status.kind != .directory then
        fault ("cannot overwrite directory " ++ quote target ++ " with non-directory")
      else if old.toOption.isSome && !oldIsDirectory && status.kind = .directory then
        fault ("cannot overwrite non-directory " ++ quote target ++ " with directory " ++
          quote source)
      else
        match ← ask (.change (.rename (trimPath source) target)) with
        | .ok _ =>
            if given.has "v" then
              say ("renamed " ++ quote source ++ " -> " ++ quote target ++ "\n")
        | .error cause =>
            if cause = .invalidArgument && status.kind = .directory then
              fault ("cannot move " ++ quote source ++ " to a subdirectory of itself, " ++
                quote target)
            else
              fault ("cannot move " ++ quote source ++ " to " ++ quote target ++ ": " ++
                cause.description)

def mvTool (arguments : List String) : Tool Nat := do
  let given ← options
    [.flag 'f' ["force"], .flag 'i' ["interactive"], .flag 'n' ["no-clobber"],
      .flag 'u' ["update"], .flag 'v' ["verbose"], .flag 'b' [], .longAttached "backup",
      .flag 'T' ["no-target-directory"], .value 't' ["target-directory"],
      .longFlag "strip-trailing-slashes"] arguments
  let (sources, destination) ← destinationOf given
  sources.forM fun source => moveOne given source (destination.of source)
  done

def linkOne (given : Given) (source target : String) : Tool Unit := do
  let symbolic := given.has "s"
  let status ← statusAt source true
  let blocked ← if symbolic then pure false else
    match status with
    | .error cause =>
        fault ("failed to access " ++ quote source ++ ": " ++ cause.description)
        pure true
    | .ok status =>
        if status.kind = .directory then
          fault (shown source ++ ": hard link not allowed for directory")
          pure true
        else pure false
  if !blocked then
    if given.has "f" then
      let _ ← ask (.change (.remove target))
    match ← ask (.change (if symbolic then .symlink source target else .link source target)) with
    | .ok _ =>
        if given.has "v" then
          say (quote target ++ (if symbolic then " -> " else " => ") ++ quote source ++ "\n")
    | .error cause =>
        fault ("failed to create " ++ (if symbolic then "symbolic" else "hard") ++ " link " ++
          quote target ++ ": " ++ cause.description)

def lnTool (arguments : List String) : Tool Nat := do
  let given ← options
    [.flag 's' ["symbolic"], .flag 'f' ["force"], .flag 'n' ["no-dereference"],
      .flag 'v' ["verbose"], .flag 'i' ["interactive"], .flag 'L' ["logical"],
      .flag 'P' ["physical"], .flag 'r' ["relative"], .flag 'b' [], .flag 'd' ["directory"],
      .flag 'F' [], .flag 'T' ["no-target-directory"], .value 't' ["target-directory"]] arguments
  match given.operands, given.value? "t" with
  | [], _ => misused "missing file operand"
  | [source], none =>
      linkOne given source (under "." (lastName source))
      done
  | _, _ =>
      let (sources, destination) ← destinationOf given
      let destination ← if given.has "n" then destination.itself else pure destination
      sources.forM fun source => linkOne given source (destination.of source)
      done

def linkTool (arguments : List String) : Tool Nat := do
  let given ← options [] arguments
  match given.operands with
  | [] => missingOperand
  | [only] => misused ("missing operand after " ++ quote only)
  | [source, target] =>
      match ← ask (.change (.link source target)) with
      | .ok _ => done
      | .error cause =>
          die ("cannot create link " ++ quote target ++ " to " ++ quote source ++ ": " ++
            cause.description)
  | _ :: _ :: extra :: _ => extraOperand extra

def makeParents (verbose : Bool) : String → List String → Tool Unit
  | _, [] => return ()
  | path, part :: rest => do
      let path := if part.isEmpty then (if path.isEmpty then "/" else path)
        else if path.isEmpty then part else under path part
      if part.isEmpty then makeParents verbose path rest
      else
        match ← ask (.change (.makeDirectory path)) with
        | .ok _ =>
            if verbose then say ("mkdir: created directory " ++ quote path ++ "\n")
            makeParents verbose path rest
        | .error cause =>
            if ← isDirectory path then makeParents verbose path rest
            else
              let cause : IoError := match ← statusAt path true with
                | .ok _ => if rest.isEmpty then .alreadyExists else .notDirectory
                | .error other => if cause = .alreadyExists then other else cause
              fault ("cannot create directory " ++ quote path ++ ": " ++ cause.description)

def mkdirTool (arguments : List String) : Tool Nat := do
  let given ← options [.flag 'p' ["parents"], .value 'm' ["mode"], .flag 'v' ["verbose"]] arguments
  if given.operands.isEmpty then missingOperand
  given.operands.forM fun path => do
    if given.has "p" then makeParents (given.has "v") "" (path.splitOn "/")
    else
      match ← ask (.change (.makeDirectory path)) with
      | .ok _ => if given.has "v" then say ("mkdir: created directory " ++ quote path ++ "\n")
      | .error cause =>
          fault ("cannot create directory " ++ quote path ++ ": " ++ cause.description)
  done

def touchTool (arguments : List String) : Tool Nat := do
  let given ← options
    [.flag 'a' [], .flag 'm' [], .flag 'c' ["no-create"], .flag 'h' ["no-dereference"],
      .value 'd' ["date"], .value 't' [], .value 'r' ["reference"], .flag 'f' [],
      .longValue "time"] arguments
  if given.operands.isEmpty then misused "missing file operand"
  given.operands.forM fun path => do
    let there ← pathExists path true
    if !there && !given.has "c" then
      match ← ask (.open path { writes := true, creates := true }) with
      | .ok descriptor =>
          let _ ← ask (.close descriptor)
      | .error cause =>
          -- A path that has to be a directory cannot be made, and is not there either.
          if cause = .isDirectory then
            match ← statusAt path true with
            | .error other =>
                fault ("setting times of " ++ quote path ++ ": " ++ other.description)
            | .ok _ => pure ()
          else fault ("cannot touch " ++ quote path ++ ": " ++ cause.description)
  done

def changeMode (mask : Nat) (text : String) (deep quiet : Bool) : Nat → String → Tool Unit
  | 0, _ => return ()
  | fuel + 1, path => do
      match ← statusAt path true with
      | .error cause =>
          if !quiet then
            fault ("cannot access " ++ quote path ++ ": " ++ cause.description)
          else setStatus 1
      | .ok status =>
          let isDirectory := status.kind == .directory
          match Format.newMode mask isDirectory text (permissions status.mode) with
          | some mode =>
              let _ ← ask (.change (.setMode path mode))
          | none => pure ()
          if deep && isDirectory then
            match ← namesIn path with
            | .ok names =>
                names.forM fun name => changeMode mask text deep quiet fuel (under path name)
            | .error _ => pure ()

def looksLikeMode (word : String) : Bool :=
  match word.toList with
  | '-' :: c :: _ => "rwxXstugo".toList.contains c
  | _ => false

def chmodTool (arguments : List String) : Tool Nat := do
  let (modes, arguments) := match arguments with
    | first :: rest => if looksLikeMode first then ([first], rest) else ([], arguments)
    | [] => ([], [])
  let given ← options
    [.flag 'R' ["recursive"], .flag 'v' ["verbose"], .flag 'c' ["changes"],
      .flag 'f' ["silent", "quiet"], .longValue "reference", .longFlag "preserve-root",
      .longFlag "no-preserve-root"] arguments
  match modes ++ given.operands with
  | [] => missingOperand
  | [only] => misused ("missing operand after " ++ quote only)
  | mode :: paths =>
      let mask ← ask (.mask none)
      if (Format.newMode mask false mode 0).isNone then misused ("invalid mode: " ++ quote mode)
      paths.forM (changeMode mask mode (given.has "R") (given.has "f") depthLimit)
      done

-- Owners are not kept.
-- The owner and the group of all files stay what they are.
def chownTool (kind : String) (arguments : List String) : Tool Nat := do
  let given ← options
    [.flag 'R' ["recursive"], .flag 'v' ["verbose"], .flag 'c' ["changes"],
      .flag 'f' ["silent", "quiet"], .flag 'h' ["no-dereference"]] arguments
  match given.operands with
  | [] => missingOperand
  | [only] => misused ("missing operand after " ++ quote only)
  | name :: paths =>
      let isKnown (part : String) : Bool := ["", "root", "0"].contains part
      if !(name.splitOn ":").all isKnown then die ("invalid " ++ kind ++ ": " ++ quote name)
      paths.forM fun path => do
        match ← statusAt path true with
        | .ok _ => pure ()
        | .error cause => fault ("cannot access " ++ quote path ++ ": " ++ cause.description)
      done

end Acceptance.Tools
