import EditorPlugins.Number.Decimal
import EditorPlugins.Text.Quoted

/-! # Failures of disk operations

Every failure has a number and a wording that are the system's own, and names the path of the
operation as it was given.
-/

namespace EditorPlugins.Disk

/-- Why an operation on a path fails. -/
inductive Reason where
  | notFound
  | alreadyExists
  | notDirectory
  | isDirectory
  | nameTooLong
  | tooManyLinks
  | nullInName
deriving DecidableEq, Repr

namespace Reason

/-- The system's number of a reason; a path with a null character never reaches the system. -/
def number : Reason → Nat
  | nullInName => 0
  | notFound => 2
  | alreadyExists => 17
  | notDirectory => 20
  | isDirectory => 21
  | nameTooLong => 36
  | tooManyLinks => 40

def wording : Reason → String
  | notFound => "No such file or directory"
  | alreadyExists => "File exists"
  | notDirectory => "Not a directory"
  | isDirectory => "Is a directory"
  | nameTooLong => "File name too long"
  | tooManyLinks => "Too many levels of symbolic links"
  | nullInName => "embedded null byte"

end Reason

/-- A failed operation on a path. -/
structure Failure where
  reason : Reason
  path : String
deriving DecidableEq, Repr

/-- The number, the wording and the quoted path of a failure, or the wording alone. -/
def Failure.message (failure : Failure) : String :=
  if failure.reason = .nullInName then failure.reason.wording
  else
    "[Errno " ++ Number.natText failure.reason.number ++ "] " ++ failure.reason.wording ++ ": " ++
      Text.literal failure.path

end EditorPlugins.Disk
