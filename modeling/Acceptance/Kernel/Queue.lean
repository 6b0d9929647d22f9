import Acceptance.Text.Utf8

namespace Acceptance.Kernel

open Text (Bytes)

-- Bytes that come in blocks: those on their way through a pipe, and those that have been written
-- at the end of a file.

structure Queue where
  front : List Bytes := []
  back : List Bytes := []
  size : Nat := 0

namespace Queue

def content (queue : Queue) : Bytes := (queue.front ++ queue.back.reverse).flatten

def push (queue : Queue) (block : Bytes) : Queue :=
  { queue with back := block :: queue.back, size := queue.size + block.length }

def splitBlocks : Nat → List Bytes → Bytes × List Bytes
  | _, [] => ([], [])
  | count, block :: blocks =>
      let (taken, left) := block.splitAt count
      if left.isEmpty then
        let (more, rest) := splitBlocks (count - taken.length) blocks
        (taken ++ more, rest)
      else (taken, left :: blocks)

-- Takes at most `count` bytes from the start.
def pop (queue : Queue) (count : Nat) : Bytes × Queue :=
  let (taken, front) := splitBlocks count queue.front
  let missing := count - taken.length
  if missing = 0 || queue.back.isEmpty then
    (taken, { queue with front, size := queue.size - taken.length })
  else
    let (more, front) := splitBlocks missing queue.back.reverse
    let taken := taken ++ more
    (taken, { front, size := queue.size - taken.length })

end Queue
end Acceptance.Kernel
