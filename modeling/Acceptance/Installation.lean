import Acceptance.Kernel.Launch
import Acceptance.Tools.Catalog

namespace Acceptance.Installation

-- The system that programs run on: the tree of files it consists of, and the launcher.

def directories : List Place := [
  ["usr"], ["bin", "usr"], ["sbin", "usr"], ["lib", "usr"], ["local", "usr"],
  ["bin", "local", "usr"], ["sbin", "local", "usr"], ["share", "usr"], ["dev"], ["proc"],
  ["self", "proc"], ["fd", "self", "proc"], ["etc"], ["tmp"], ["home"], ["root"], ["srv"],
  ["var"], ["tmp", "var"], ["opt"], ["mnt"], ["run"]]

def links : List (Place × String) := [
  (["bin"], "usr/bin"), (["sbin"], "usr/sbin"), (["lib"], "usr/lib"),
  (["sh", "bin", "usr"], Tools.shellName), (["awk", "bin", "usr"], "mawk"),
  (["stdin", "dev"], "/proc/self/fd/0"), (["stdout", "dev"], "/proc/self/fd/1"),
  (["stderr", "dev"], "/proc/self/fd/2"), (["fd", "dev"], "/proc/self/fd")]

def devices : List (Place × Device) := [
  (["null", "dev"], .null), (["zero", "dev"], .zero), (["full", "dev"], .full),
  (["random", "dev"], .zero), (["urandom", "dev"], .zero), (["tty", "dev"], .terminal)]

def descriptors : List (Place × Device) :=
  (List.range 16).map fun number =>
    ([toString number, "fd", "self", "proc"], .descriptor number)

def accounts : String :=
  "root:x:0:0:root:/root:/bin/bash\ndaemon:x:1:1:daemon:/usr/sbin:/usr/sbin/nologin\n"

def programs : List (Place × Entry) :=
  (Tools.shellName :: Tools.richShellName :: Tools.catalog.map (·.name)).map fun name =>
    ([name, "bin", "usr"], .file (Kernel.Image.ofName name) Entry.programMode)

def entries : List (Place × Entry) :=
  directories.map (fun place => (place, .directory)) ++
  links.map (fun (place, target) => (place, .link target)) ++
  (devices ++ descriptors).map (fun (place, device) => (place, .device device)) ++
  (["passwd", "etc"], .file (Text.utf8 accounts) Entry.plainMode) :: programs

def searchPath : String := "/usr/local/sbin:/usr/local/bin:/usr/sbin:/usr/bin:/sbin:/bin"

def launcher (env : Environment) : Launcher := Kernel.launcher Tools.load env

end Acceptance.Installation
