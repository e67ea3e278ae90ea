import Awk.CommandLine
import Std.Time.DateTime.Timestamp

/-!
# The program

Follows the command line.  Whenever the run asks for something of the world that is
not known yet, it is looked up and the run starts again; nothing is written before it
has come to its end.
-/

namespace Awk
namespace Main

/-- What is found under the name of a file. -/
def lookUp (name : String) : IO Entry := do
  try
    return .contents (← IO.FS.readBinFile name).toList
  catch
    | .noFileOrDirectory .. => return .unavailable Error.noSuchFile
    | .inappropriateType .. => return .directory
    | e => return .unavailable (toString e)

/-- All bytes of a stream. -/
partial def readAll (stream : IO.FS.Stream) (soFar : ByteArray) : IO ByteArray := do
  let bytes ← stream.read 65536
  if bytes.isEmpty then return soFar else readAll stream (soFar ++ bytes)

/-- The variables of the environment, which the system lists one behind the other. -/
def environment : IO (List (String × String)) := do
  match ← lookUp "/proc/self/environ" with
  | .contents bytes =>
    let texts := Text.splitBy (· == Char.ofNat 0) (Text.Utf8.decode bytes)
    return texts.filterMap fun cs => Assignment.divide? (String.ofList cs)
  | _ => return []

/-- The seconds since the start of the year 1970. -/
def clock : IO Double := do
  return .ofInt (← Std.Time.Timestamp.now).toSecondsSinceUnixEpoch.val

/-- What the system reports of a program that goes down. -/
def crashedStatus : Crash → UInt32
  | .overflow => 101
  | .recursion => 134

partial def follow (world : World) (args : List String) : IO UInt32 := do
  match CommandLine.run world args with
  | .ok outcome =>
    (← IO.getStdout).putStr outcome.output
    (← IO.getStderr).putStr outcome.errors
    return UInt32.ofNat outcome.status
  | .error (.needs (.file name)) => follow (world.learn name (← lookUp name)) args
  | .error (.needs .input) =>
    let bytes ← readAll (← IO.getStdin) ByteArray.empty
    follow { world with input := some (ByteStream.blocks bytes.toList) } args
  | .error (.failed e) =>
    (← IO.getStderr).putStr ("awk-ai: " ++ e.message ++ "\n")
    return 2
  | .error (.crashed c) => return crashedStatus c
  | .error .exhausted => return 2

end Main
end Awk

def main (args : List String) : IO UInt32 := do
  Awk.Main.follow
    { file? := fun _ => none
      input := none
      environment := ← Awk.Main.environment
      clock := ← Awk.Main.clock }
    args
