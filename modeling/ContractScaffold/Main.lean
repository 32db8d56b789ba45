/-
The program: the command line on the file system and the environment of the
machine. Everything that is decided is decided by `run`; here its questions are
passed on and its result is written out. Nothing is logged.
-/
import ContractScaffold.CommandLine.Run

namespace ContractScaffold

/-- The number and the wording of an error of the operating system. -/
def errorNumber : IO.Error → Nat × String
  | .alreadyExists _ code details => (code.toNat, details)
  | .otherError code details => (code.toNat, details)
  | .resourceBusy code details => (code.toNat, details)
  | .resourceVanished code details => (code.toNat, details)
  | .unsupportedOperation code details => (code.toNat, details)
  | .hardwareFault code details => (code.toNat, details)
  | .unsatisfiedConstraints code details => (code.toNat, details)
  | .illegalOperation code details => (code.toNat, details)
  | .protocolError code details => (code.toNat, details)
  | .timeExpired code details => (code.toNat, details)
  | .interrupted _ code details => (code.toNat, details)
  | .noFileOrDirectory _ code details => (code.toNat, details)
  | .invalidArgument _ code details => (code.toNat, details)
  | .permissionDenied _ code details => (code.toNat, details)
  | .resourceExhausted _ code details => (code.toNat, details)
  | .inappropriateType _ code details => (code.toNat, details)
  | .noSuchThing _ code details => (code.toNat, details)
  | .unexpectedEof => (0, "unexpected end of file")
  | .userError details => (0, details)

/-- A number of an error without its sign: some operations count their errors
downwards from zero. -/
def unsigned (code : Nat) : Nat :=
  if code < 0x80000000 then code else 0x100000000 - code

/-- The fault that an error of the operating system is. -/
def faultOf (e : IO.Error) : Fault :=
  match (unsigned (errorNumber e).1, (errorNumber e).2) with
  | (2, _) => .notFound
  | (13, _) => .permissionDenied
  | (17, _) => .alreadyExists
  | (20, _) => .notDirectory
  | (21, _) => .isDirectory
  | (36, _) => .nameTooLong
  | (40, _) => .tooManyLinks
  | (code, details) => .other code details.toList

/-- The kind of an entry of the machine's file system. -/
def kindOf : IO.FS.FileType → Kind
  | .dir => .directory
  | .file => .file
  | .symlink => .link
  | .other => .special

/-- An action of the machine, whose errors are faults. -/
def attempt {α : Type} (action : IO α) : ExceptT Fault IO α :=
  ExceptT.mk do
    try
      return .ok (← action)
    catch e => return .error (faultOf e)

/-- An action on the path below the working directory. No entry has the empty
path or a path with a zero character. -/
def atEntry {α : Type} (path : Path) (action : String → IO α) : ExceptT Fault IO α :=
  if path = [] then throw .notFound
  else if path.elem '\x00' then throw .nulInPath
  else attempt (action (String.ofList path))

/-- The file system of the machine. -/
instance : FileSystem IO where
  readBytes path := atEntry path fun p => return (← IO.FS.readBinFile p).toList
  writeBytes path content := atEntry path fun p => IO.FS.writeBinFile p content.toByteArray
  makeDirectory path := atEntry path fun p => IO.FS.createDir p
  kind path := atEntry path fun p => do
    return kindOf (← ((← IO.currentDir) / p).metadata).type
  entries path := atEntry path fun p => do
    let found ← ((← IO.currentDir) / p).readDir
    found.toList.mapM fun entry => do
      return (entry.fileName.toList, kindOf (← entry.path.symlinkMetadata).type)

/-- The environment of the machine, as far as the configuration looks at it. -/
def machineEnvironment : IO Environment := do
  let values ← configVariables.mapM fun name => do
    return (name, ← IO.getEnv (String.ofList name))
  return fun name => (values.lookup name).bind fun value => value.map String.toList

end ContractScaffold

open ContractScaffold in
/-- Runs the command line and writes its two texts. -/
def main (arguments : List String) : IO UInt32 := do
  let root := (← IO.currentDir).toString.toList
  let result : Result ← run root (← machineEnvironment) (arguments.map String.toList)
  let stdout ← IO.getStdout
  stdout.putStr (String.ofList result.stdout)
  stdout.flush
  let stderr ← IO.getStderr
  stderr.putStr (String.ofList result.stderr)
  stderr.flush
  return UInt32.ofNat result.exit
