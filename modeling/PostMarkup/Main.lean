import PostMarkup.Command

/-!
The program. It gives the command the files of the system, prints what the command hands back, and
decides nothing itself.
-/

namespace PostMarkup.Program

def describe : IO.Error → Option UInt32 × String
  | .alreadyExists _ code details => (some code, details)
  | .otherError code details => (some code, details)
  | .resourceBusy code details => (some code, details)
  | .resourceVanished code details => (some code, details)
  | .unsupportedOperation code details => (some code, details)
  | .hardwareFault code details => (some code, details)
  | .unsatisfiedConstraints code details => (some code, details)
  | .illegalOperation code details => (some code, details)
  | .protocolError code details => (some code, details)
  | .timeExpired code details => (some code, details)
  | .interrupted _ code details => (some code, details)
  | .noFileOrDirectory _ code details => (some code, details)
  | .invalidArgument _ code details => (some code, details)
  | .permissionDenied _ code details => (some code, details)
  | .resourceExhausted _ code details => (some code, details)
  | .inappropriateType _ code details => (some code, details)
  | .noSuchThing _ code details => (some code, details)
  | .unexpectedEof => (none, "unexpected end of file")
  | .userError details => (none, details)

/-- The number of an error. Some operations give it with a minus sign, in two's complement. -/
def errorNumber (code : UInt32) : Nat :=
  code.toInt32.toInt.natAbs

def faultOf (error : IO.Error) : DiskFault :=
  match describe error with
  | (none, details) => .other details.toList
  | (some code, details) =>
      match errorNumber code with
      | 2 => .notFound
      | 17 => .alreadyExists
      | 20 => .notDirectory
      | 21 => .isDirectory
      | 36 => .nameTooLong
      | number =>
          .other (details.capitalize.toList ++ " (os error ".toList ++ Text.decimal number ++ [')'])

def guarded {Value : Type} (operation : IO Value) : IO (Except DiskFault Value) := do
  try
    return .ok (← operation)
  catch error =>
    return .error (faultOf error)

def readText (path : Text) : IO (Except DiskFault Text) := do
  match ← guarded (IO.FS.readBinFile (String.ofList path)) with
  | .error fault => return .error fault
  | .ok bytes =>
      match String.fromUTF8? bytes with
      | some text => return .ok text.toList
      | none => return .error .notText

/-- Only a directory can be opened through a dot below it and then refuses to be read. -/
def leadsToDirectory (path : Text) : IO Bool := do
  match ← guarded (IO.FS.readBinFile (String.ofList (path ++ ['/', '.']))) with
  | .error .isDirectory => return true
  | _ => return false

def systemDisk : Disk IO where
  read := readText
  makeDirectory path := guarded (IO.FS.createDir (String.ofList path))
  isDirectory := leadsToDirectory
  write path text := guarded (IO.FS.writeFile (String.ofList path) (String.ofList text))

end PostMarkup.Program

def main (arguments : List String) : IO UInt32 := do
  let outcome ← PostMarkup.Command.run PostMarkup.Program.systemDisk (arguments.map String.toList)
  let stdout ← IO.getStdout
  stdout.putStr (String.ofList outcome.stdout)
  let stderr ← IO.getStderr
  stderr.putStr (String.ofList outcome.stderr)
  return outcome.code
