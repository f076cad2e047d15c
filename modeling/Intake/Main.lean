import Intake.CommandLine.Run

namespace Intake.CommandLine

partial def readUpTo (count : Nat) (stream : IO.FS.Stream) : IO ByteArray :=
  loop ByteArray.empty
where
  loop (got : ByteArray) : IO ByteArray := do
    if count ≤ got.size then return got
    let chunk ← stream.read (min (count - got.size) 65536).toUSize
    if chunk.isEmpty then return got else loop (got ++ chunk)

/-- The failure that the system reports behind an exception, if it is the system that does. -/
def osError? : IO.Error → Option OsError
  | .alreadyExists _ code reason | .otherError code reason | .resourceBusy code reason
  | .resourceVanished code reason | .unsupportedOperation code reason
  | .hardwareFault code reason | .unsatisfiedConstraints code reason
  | .illegalOperation code reason | .protocolError code reason | .timeExpired code reason
  | .interrupted _ code reason | .noFileOrDirectory _ code reason
  | .invalidArgument _ code reason | .permissionDenied _ code reason
  | .resourceExhausted _ code reason | .inappropriateType _ code reason
  | .noSuchThing _ code reason => some ⟨reason, code.toNat⟩
  | .unexpectedEof | .userError _ => none

def recovered (fetched : OsError → Fetched) (e : IO.Error) : IO Fetched :=
  match osError? e with
  | some f => return fetched f
  | none => throw e

def fetchStream (limit : Nat) (stream : IO.FS.Stream) : IO Fetched := do
  try
    return (← readUpTo (readAhead limit) stream).toList
  catch e => recovered .notRead e

def fetchFile (limit : Nat) (path : String) : IO Fetched := do
  try
    let handle ← IO.FS.Handle.mk path .read
    fetchStream limit (.ofHandle handle)
  catch e => recovered .notOpened e

def fetch (limit : Nat) : Origin → IO Fetched
  | .inline _ => return .bytes []
  | .stdin _ => do fetchStream limit (← IO.getStdin)
  | .file path => fetchFile limit path

def terminals : IO Terminals := do
  return ⟨← (← IO.getStdin).isTty, ← (← IO.getStdout).isTty, ← (← IO.getStderr).isTty⟩

/-- Of all inputs only the one that the run reads is fetched. -/
def surroundings (args : List String) : IO Surroundings := do
  let t ← terminals
  let fetched ← match plan args t with
    | .reading r => fetch r.limit r.origin
    | .done _ | .script _ => pure (.bytes [])
  return { stdin := fetched, file := fun _ => fetched, terminals := t }

end Intake.CommandLine

open Intake.CommandLine in
def main (args : List String) : IO UInt32 := do
  let outcome := run args (← surroundings args)
  (← IO.getStdout).putStr outcome.stdout
  (← IO.getStderr).putStr outcome.stderr
  return outcome.exitCode.toUInt32
