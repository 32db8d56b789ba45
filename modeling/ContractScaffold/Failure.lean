/-
What can go wrong, and in which words it is reported. Reading a specification
never fails; a template may be missing, a file system may refuse, and a
configuration may be malformed.

* `Fault`, `Fault.message`: the refusals of a file system.
* `Failure`, `Failure.message`: the failures of the library.
* `Failure.report`: a failure with its cause after it.
-/
import ContractScaffold.Text.Digit

namespace ContractScaffold

/-- A path of a file system, as it was written. -/
abbrev Path := Text

/-- Why a file system refuses an operation, or a file is no text. -/
inductive Fault where
  | notFound
  | permissionDenied
  | alreadyExists
  | notDirectory
  | isDirectory
  | tooManyLinks
  | nameTooLong
  | nulInPath
  | notText
  /-- A refusal that the library does not tell apart, with its number and
  wording. -/
  | other (code : Nat) (wording : Text)
  deriving DecidableEq, Repr

namespace Fault

/-- The wording of a refusal with its number. -/
def numbered (wording : Text) (code : Nat) : Text :=
  wording ++ " (os error " ++ Text.decimal code ++ ")"

/-- The wording of a fault. -/
def message : Fault → Text
  | notFound => numbered "No such file or directory" 2
  | permissionDenied => numbered "Permission denied" 13
  | alreadyExists => numbered "File exists" 17
  | notDirectory => numbered "Not a directory" 20
  | isDirectory => numbered "Is a directory" 21
  | tooManyLinks => numbered "Too many levels of symbolic links" 40
  | nameTooLong => numbered "File name too long" 36
  | nulInPath => "file name contained an unexpected NUL byte"
  | notText => "stream did not contain valid UTF-8"
  | other code wording => numbered wording code

end Fault

/-- The failures of the library. -/
inductive Failure where
  /-- No template has that name. -/
  | templateNotFound (name : Text)
  /-- A file or directory at the path could not be read or written. -/
  | io (path : Path) (fault : Fault)
  /-- The directory at the path could not be searched for documents. -/
  | scan (path : Path) (fault : Fault)
  /-- The configuration file at the path could not be read. -/
  | unreadableConfig (path : Path) (fault : Fault)
  /-- The configuration file at the path is malformed. -/
  | malformedConfig (path : Path)
  deriving DecidableEq, Repr

namespace Failure

/-- The wording of a search that was refused. -/
def scanMessage (path : Path) (fault : Fault) : Text :=
  "IO error for operation on " ++ path ++ ": " ++ fault.message

/-- The wording of a failure. -/
def message : Failure → Text
  | templateNotFound name => "Template not found: " ++ name
  | io path fault => "I/O error at " ++ path ++ ": " ++ fault.message
  | scan path fault => "I/O error at " ++ path ++ ": " ++ scanMessage path fault
  | unreadableConfig path fault => "Invalid configuration in " ++ path ++ ": " ++ fault.message
  | malformedConfig path =>
    "Invalid configuration in " ++ path ++ ": not a table of the expected values"

/-- The failure and, after it, the cause it was raised from. -/
def report (failure : Failure) : Text :=
  match failure with
  | io _ fault => failure.message ++ ": " ++ fault.message
  | _ => failure.message

end Failure

end ContractScaffold
