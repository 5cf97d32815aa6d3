import MeteringAlarms.CommandLine.Run
import Std.Time.DateTime.Timestamp

/-!
# The program

Runs a command on the files of the machine. Requests need a network, which this program does not
have, so a command that needs an answer of the alarm service fails for lack of one.
-/

namespace MeteringAlarms.Main

def textOf (content : ByteArray) : Except ReadFault String :=
  match String.fromUTF8? content with
  | some text => .ok text
  | none => .error .notText

def faultOf : IO.Error → ReadFault
  | .inappropriateType _ code _ => if code = 21 then .isDirectory else .notDirectory
  | .permissionDenied _ _ _ => .denied
  | .invalidArgument _ code _ => if code = 22 then .nulInName else .nameTooLong
  | _ => .missing

def succeeds (action : IO Unit) : IO Bool := do
  try
    action
    pure true
  catch _ => pure false

def files : FileSystem IO where
  makeDirectory path := succeeds (IO.FS.createDirAll path)
  isPresent path := do
    try
      discard <| IO.FS.Handle.mk path .read
      pure true
    catch _ => pure false
  read path := do
    try
      pure (textOf (← IO.FS.readBinFile path))
    catch fault => pure (.error (faultOf fault))
  write path text := succeeds (IO.FS.writeFile path text)
  rename old new := succeeds (IO.FS.rename old new)
  remove path := succeeds (IO.FS.removeFile path)

def randomHex (width : Nat) : IO String := do
  let n ← IO.rand 0 (Nat.pow 16 width - 1)
  pure (String.ofList (Digits.hex width n))

def now : IO Timestamp := do
  let n := (← Std.Time.Timestamp.now).toNanosecondsSinceUnixEpoch.toInt
  pure ⟨n / 1000000000, (n % 1000000000).toNat⟩

def platform : CommandLine.Platform IO where
  files := files
  send _ := pure none
  newSuffix := randomHex 12
  newStackId := do
    pure ("-".intercalate
      [← randomHex 8, ← randomHex 4, ← randomHex 4, ← randomHex 4, ← randomHex 12])
  now := now

def describe : CommandLine.Cause → String
  | .context text => text
  | .failure failure => failure.message
  | .unreadable fault => fault.message
  | .notJson => "the text is not JSON"

end MeteringAlarms.Main

open MeteringAlarms in
def main (arguments : List String) : IO UInt32 := do
  match CommandLine.Invocation.ofArguments arguments with
  | .error _ =>
    IO.eprintln "usage: [options] types|render|create|update|suspend|resume|delete [options]"
    pure 2
  | .ok invocation =>
    match ← (invocation.run Main.platform).run with
    | .ok text =>
      IO.print text
      pure 0
    | .error causes =>
      IO.eprintln ("Error: " ++ ": ".intercalate (causes.map Main.describe))
      pure 1
