/-!
# Errors of file operations

Why a file operation fails. The system numbers its errors; what is noticed before the system is
asked has no number.
-/

namespace Quorum

inductive IoError where
  | notFound
  /-- A directory is named by points. -/
  | busy
  | alreadyExists
  | notDirectory
  | isDirectory
  | notEmpty
  /-- A directory would be moved below itself. -/
  | invalidArgument
  | nameTooLong
  /-- The device does not do what is asked. -/
  | deviceFailed
  /-- What should be copied is no file. -/
  | notFile
  /-- No name holds the character zero. -/
  | zeroInName
deriving DecidableEq, Repr

namespace IoError

/-- The number that the system gives the error. -/
def code? : IoError → Option Nat
  | .notFound => some 2
  | .deviceFailed => some 5
  | .busy => some 16
  | .alreadyExists => some 17
  | .notDirectory => some 20
  | .isDirectory => some 21
  | .invalidArgument => some 22
  | .nameTooLong => some 36
  | .notEmpty => some 39
  | .notFile | .zeroInName => none

def kind : IoError → String
  | .notFound => "NotFound"
  | .deviceFailed => "Uncategorized"
  | .busy => "ResourceBusy"
  | .alreadyExists => "AlreadyExists"
  | .notDirectory => "NotADirectory"
  | .isDirectory => "IsADirectory"
  | .invalidArgument | .notFile | .zeroInName => "InvalidInput"
  | .nameTooLong => "InvalidFilename"
  | .notEmpty => "DirectoryNotEmpty"

def wording : IoError → String
  | .notFound => "No such file or directory"
  | .deviceFailed => "Input/output error"
  | .busy => "Device or resource busy"
  | .alreadyExists => "File exists"
  | .notDirectory => "Not a directory"
  | .isDirectory => "Is a directory"
  | .invalidArgument => "Invalid argument"
  | .nameTooLong => "File name too long"
  | .notEmpty => "Directory not empty"
  | .notFile => "the source path is neither a regular file nor a symlink to a regular file"
  | .zeroInName => "file name contained an unexpected NUL byte"

def message (e : IoError) : String :=
  match e.code? with
  | some code => e.wording ++ s!" (os error {code})"
  | none => e.wording

/-- The error with its fields. -/
def dump (e : IoError) : String :=
  let fields := s!"kind: {e.kind}, message: \"" ++ e.wording ++ "\" \x7d"
  match e.code? with
  | some code => s!"Os \x7b code: {code}, " ++ fields
  | none => "Error \x7b " ++ fields

end IoError

end Quorum
