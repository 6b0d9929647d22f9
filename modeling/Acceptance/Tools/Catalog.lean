import Acceptance.Shell.Start
import Acceptance.Tools.Awk
import Acceptance.Tools.Cmp
import Acceptance.Tools.Columns
import Acceptance.Tools.Condition
import Acceptance.Tools.Diff
import Acceptance.Tools.Digest
import Acceptance.Tools.Expression
import Acceptance.Tools.Files
import Acceptance.Tools.Grep
import Acceptance.Tools.Layout
import Acceptance.Tools.Listing
import Acceptance.Tools.Printing
import Acceptance.Tools.Running
import Acceptance.Tools.Sed
import Acceptance.Tools.Sort
import Acceptance.Tools.Streams
import Acceptance.Tools.Exchange

namespace Acceptance.Tools

open Kernel (Loader)

-- The programs that are installed, and how they are loaded.

structure Installed where
  name : String
  calledAs : Option String := none
  trouble : Nat := 1
  outputFault : String := "write error"
  signsHints : Bool := false
  usage : String := ""
  run : List String → Tool Nat

def patternUsage : String := "Usage: grep [OPTION]... PATTERNS [FILE]...\n"

def catalog : List Installed := [
  { name := "[", trouble := 2, run := bracketTool },
  { name := "arch", run := archTool },
  { name := "basename", run := basenameTool },
  { name := "cat", run := catTool },
  { name := "chgrp", run := chownTool "group" },
  { name := "chmod", run := chmodTool },
  { name := "chown", run := chownTool "user" },
  { name := "cksum", run := cksumTool },
  { name := "cmp", trouble := 2, outputFault := "standard output", signsHints := true
    run := cmpTool },
  { name := "comm", run := commTool },
  { name := "cp", run := cpTool },
  { name := "diff", trouble := 2, outputFault := "standard output", signsHints := true
    run := diffTool },
  { name := "dir", trouble := 2, run := listTool .columns .escaped },
  { name := "dirname", run := dirnameTool },
  { name := "echo", run := echoTool },
  { name := "egrep", calledAs := some "grep", trouble := 2, usage := patternUsage
    run := fun arguments => grepTool ("-E" :: arguments) },
  { name := "env", run := envTool },
  { name := "expr", trouble := 2, run := exprTool },
  { name := "false", run := falseTool },
  { name := "fgrep", calledAs := some "grep", trouble := 2, usage := patternUsage
    run := fun arguments => grepTool ("-F" :: arguments) },
  { name := "grep", trouble := 2, usage := patternUsage, run := grepTool },
  { name := "groups", run := groupsTool },
  { name := "head", run := headTool },
  { name := "id", run := idTool },
  { name := "install", run := installTool },
  { name := "kill", run := killTool },
  { name := "link", run := linkTool },
  { name := "ln", run := lnTool },
  { name := "logname", run := lognameTool },
  { name := "ls", trouble := 2, run := listTool .lines .plain },
  { name := "mawk", trouble := 2, run := awkTool },
  { name := "md5sum", run := digestTool "MD5" Digest.md5 },
  { name := "mkdir", run := mkdirTool },
  { name := "mv", run := mvTool },
  { name := "nice", run := niceTool },
  { name := "nl", run := nlTool },
  { name := "nohup", run := nohupTool },
  { name := "nproc", run := nprocTool },
  { name := "printenv", run := printenvTool },
  { name := "printf", run := printfTool },
  { name := "pwd", run := pwdTool },
  { name := "readlink", run := readlinkTool },
  { name := "realpath", run := realpathTool },
  { name := "rev", run := revTool },
  { name := "rm", run := rmTool },
  { name := "rmdir", run := rmdirTool },
  { name := "sed", usage := sedUsage, run := sedTool },
  { name := "seq", run := seqTool },
  { name := "setsid", run := setsidTool },
  { name := "sleep", run := sleepTool },
  { name := "sort", trouble := 2, run := sortTool },
  { name := "stdbuf", run := stdbufTool },
  { name := "sync", run := trueTool },
  { name := "tac", run := tacTool },
  { name := "tail", run := tailTool },
  { name := "tee", run := teeTool },
  { name := "test", trouble := 2, run := testTool },
  { name := "timeout", run := timeoutTool },
  { name := "touch", run := touchTool },
  { name := "tr", run := trTool },
  { name := "true", run := trueTool },
  { name := "tty", run := ttyTool },
  { name := "uname", run := unameTool },
  { name := "unlink", run := unlinkTool },
  { name := "wc", run := wcTool },
  { name := "which", run := whichTool },
  { name := "whoami", run := whoamiTool },
  { name := "yes", run := yesTool }]

def shellName : String := "dash"
def richShellName : String := "bash"

def load : Loader := fun name arguments settings =>
  if name = shellName then (Shell.start .plain arguments settings).process
  else if name = richShellName then (Shell.start .rich arguments settings).process
  else
    match catalog.find? (·.name == name) with
    | some installed =>
        let desk : Desk :=
          { name := installed.calledAs.getD (arguments.headD name), settings
            trouble := installed.trouble
            outputFault := installed.outputFault, signsHints := installed.signsHints
            usage := installed.usage }
        (Tool.process desk (installed.run arguments.tail)).process
    | none => .exit 127

end Acceptance.Tools
