import Iocost.Command.Activity
import Iocost.Command.Tools
import Iocost.Files.Archive
import Std.Time.DateTime.Timestamp

/-!
The command. The files that it looks at are read as archives from standard input, one for each tick;
after the last one there are no files.
-/

namespace Iocost

/-- Reads so many bytes, or what is left of them. -/
partial def readBytes (input : IO.FS.Stream) (count : Nat) (got : ByteArray) : IO ByteArray := do
  if got.size ≥ count then
    return got
  let more ← input.read (USize.ofNat (count - got.size))
  if more.isEmpty then return got else readBytes input count (got ++ more)

/-- Reads the entries of an archive up to its end. Blocks of zeros before the first entry are
skipped. -/
partial def readArchive (input : IO.FS.Stream) (files : FileTree) (inode : UInt64) :
    IO FileTree := do
  let block ← readBytes input Archive.blockSize .empty
  if block.size < Archive.blockSize then
    return files
  match Archive.Header.ofBlock? block.data.toList with
  | none => if inode = 1 then readArchive input files inode else return files
  | some header =>
    let content ← readBytes input header.paddedSize .empty
    readArchive input (header.extract content.data.toList inode files) (inode + 1)

/-- The time in seconds since the epoch. -/
def now : IO Binary64 := do
  let nanoseconds := (← Std.Time.Timestamp.now).toNanosecondsSinceUnixEpoch.val.toNat
  return .ofUnits false (nanoseconds * Magnitude.one) Duration.second

/-- Waits. -/
partial def wait (milliseconds : Nat) : IO Unit := do
  let part := min milliseconds 4000000000
  IO.sleep (UInt32.ofNat part)
  if part < milliseconds then
    wait (milliseconds - part)

/-- Ticks until the command ends, and says why it did. -/
partial def Activity.serve (input output : IO.FS.Stream) (files : FileTree) :
    Activity → IO Ending
  | .ended ending => return ending
  | .sampling m => do
    let (next, sink) := (Activity.sampling m).tick ⟨files, ← now⟩ {}
    output.write ⟨sink.written.toArray⟩
    output.flush
    match next with
    | .ended ending => return ending
    | .sampling m =>
      wait (m.sampler.settings.interval.nanoseconds / 1000000)
      next.serve input output (← readArchive input {} 1)

/-- Says why the command ended, and gives the status to exit with. -/
def Ending.report (ending : Ending) : IO UInt32 := do
  if ending.status = 0 then
    IO.println ending.message
  else
    IO.eprintln ending.message
  return ending.status

end Iocost

open Iocost in
/-- Runs the command with its arguments. -/
def main (arguments : List String) : IO UInt32 := do
  match Command.read arguments ((← IO.getEnv "IOCOST_SNAPSHOT_DIR").map .ofString) with
  | .error stop => (Ending.notRead stop).report
  | .ok request =>
    let input ← IO.getStdin
    let files ← readArchive input {} 1
    let ending ← (request.begin .own files).serve input (← IO.getStdout) files
    ending.report
