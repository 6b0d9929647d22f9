import Acceptance.Config.Decode
import Acceptance.FileTree.Access

namespace Acceptance.Config

inductive LoadError where
  | unreadable (path : String) (cause : IoError)
  | malformed (cause : ReadError)

def load (tree : FileTree) (path : String) (required : Bool) :
    Except LoadError (Config × Option String) :=
  if !required && !tree.pathExists path then .ok ({}, none)
  else
    match tree.canonical path with
    | .error cause => .error (.unreadable path cause)
    | .ok file =>
        match tree.readText file with
        | .error cause => .error (.unreadable file cause)
        | .ok content =>
            match ofToml content with
            | .error cause => .error (.malformed cause)
            | .ok config => .ok (config, some file)

end Acceptance.Config
