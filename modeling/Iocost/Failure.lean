import Iocost.Text.Quoted

/-!
What can go wrong when a hierarchy is read, and how it is said.
-/

namespace Iocost

/-- Why a file or directory cannot be read. -/
inductive FileError where
  | notFound
  | notADirectory
  | isADirectory
  | tooManyLinks
  | nameTooLong
  | alreadyExists
  | zeroByteInPath
  | notUtf8
  | invalidData
deriving DecidableEq

/-- A file error as the system words it. -/
def FileError.message : FileError → String
  | .notFound => "No such file or directory (os error 2)"
  | .notADirectory => "Not a directory (os error 20)"
  | .isADirectory => "Is a directory (os error 21)"
  | .tooManyLinks => "Too many levels of symbolic links (os error 40)"
  | .nameTooLong => "File name too long (os error 36)"
  | .alreadyExists => "File exists (os error 17)"
  | .zeroByteInPath => "file name contained an unexpected NUL byte"
  | .notUtf8 => "stream did not contain valid UTF-8"
  | .invalidData => "invalid data"

/-- Why a question about a hierarchy has no answer. -/
inductive Failure where
  | deviceNotFound (device : String)
  | noController (device : String)
  | unknownMember (member : String)
  | unreadable (path : String) (cause : FileError)
  | missingKey (path key : String)
  | invalidValue (path key value : String)
  | badRingLength (expected actual : Nat)
deriving DecidableEq

namespace Failure

/-- What went wrong, without its cause. -/
def message : Failure → String
  | deviceNotFound device => "block device " ++ device ++ " not found"
  | noController device => "could not find ioc for " ++ device
  | unknownMember member => "unknown hierarchy member " ++ member
  | unreadable path _ => "could not read " ++ path
  | missingKey path key => "key " ++ key ++ " is missing from " ++ path
  | invalidValue path key value =>
    "invalid value " ++ Text.quoted value ++ " for key " ++ key ++ " in " ++ path
  | badRingLength expected actual =>
    "usage history has " ++ toString actual ++ " slots, expected " ++ toString expected

/-- What went wrong, followed by its cause where there is one. -/
def chain (f : Failure) : String :=
  match f with
  | unreadable _ cause => f.message ++ ": " ++ cause.message
  | _ => f.message

end Failure

end Iocost
