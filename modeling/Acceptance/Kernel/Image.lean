import Acceptance.Kernel.Files

namespace Acceptance.Kernel

open Text (Bytes)

namespace Image

def magic : Bytes := [0x7f, 0x45, 0x4c, 0x46]

def ofName (name : String) : Bytes := magic ++ Text.utf8 name

def name? (content : Bytes) : Option String :=
  if magic.isPrefixOf content then Text.ofUtf8? (content.drop magic.length) else none

def isGap (c : Char) : Bool := c == ' ' || c == '\t'

def trimGaps (text : List Char) : List Char :=
  ((text.dropWhile isGap).reverse.dropWhile isGap).reverse

def lineLimit : Nat := 256

def interpreter? (content : Bytes) : Option (String × Option String) :=
  match Text.ofBytes (content.take lineLimit) with
  | '#' :: '!' :: text =>
      let line := text.takeWhile (· != '\n')
      let whole := line.length < text.length || content.length < lineLimit
      let line := trimGaps line
      let path := line.takeWhile (!isGap ·)
      let rest := line.dropWhile (!isGap ·)
      if path.isEmpty || (!whole && rest.isEmpty) then none
      else
        let argument := trimGaps rest
        some (String.ofList path,
          if argument.isEmpty then none else some (String.ofList argument))
  | _ => none

def depthLimit : Nat := 5

def resolve (content? : String → Except IoError Bytes) : Nat → String → List String →
    Except IoError (String × List String)
  | depth, path, arguments => do
      let content ← content? path
      match interpreter? content with
      | some (interpreter, argument) =>
          match depth with
          | 0 => .error .linkLoop
          | depth + 1 =>
              resolve content? depth interpreter
                (interpreter :: argument.toList ++ path :: arguments.tail)
      | none =>
          match name? content with
          | some name => return (name, arguments)
          | none => .error .badExecutable

def argumentLimit : Nat := 131072
def totalLimit : Nat := 2097152

def fits (arguments : List String) (settings : Settings) : Bool :=
  let words := arguments ++ settings.map fun (name, value) => name ++ "=" ++ value
  words.all (·.length < argumentLimit) &&
    words.foldl (fun total word => total + word.length + 9) 0 < totalLimit

end Image

namespace Task

def runnable (task : Task) (world : World) (path : String) : Except IoError Bytes := do
  let place ← task.existing world path
  match world.stored? (.file place) with
  | some (content, mode) => if Entry.isRunnable mode then return content else .error .accessDenied
  | none => .error .accessDenied

def image (task : Task) (world : World) (path : String) (arguments : List String)
    (settings : Settings) : Except IoError (String × List String) := do
  let _ ← task.runnable world path
  if Image.fits arguments settings then
    Image.resolve (task.runnable world) Image.depthLimit path arguments
  else .error .listTooLong

end Task
end Acceptance.Kernel
