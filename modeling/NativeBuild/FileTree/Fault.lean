/-!
# Faults of file operations

The ways in which an operation on a file tree can be refused, each with the text under which
operating systems report it.
-/

namespace NativeBuild

/-- Why an operation on a file tree was refused. -/
inductive Fault where
  /-- No entry has that name. -/
  | notFound
  /-- The name is still needed by the system. -/
  | busy
  /-- There is an entry of that name already. -/
  | alreadyExists
  /-- What had to be a directory is none. -/
  | notDirectory
  /-- What must not be a directory is one. -/
  | isDirectory
  /-- The path or a component of it is longer than paths or names can be. -/
  | nameTooLong
  /-- More links on the way than are followed. -/
  | tooManyLinks
  /-- A byte in the path is zero. -/
  | zeroByte
  /-- A byte is zero in the path that a file is to be moved to. -/
  | invalid
  /-- The content of a file that had to be text is none. -/
  | notText
  deriving DecidableEq, Repr

namespace Fault

/-- The text that reports a fault. -/
def message : Fault → String
  | notFound => "No such file or directory (os error 2)"
  | busy => "Device or resource busy (os error 16)"
  | alreadyExists => "File exists (os error 17)"
  | notDirectory => "Not a directory (os error 20)"
  | isDirectory => "Is a directory (os error 21)"
  | invalid => "Invalid argument (os error 22)"
  | nameTooLong => "File name too long (os error 36)"
  | tooManyLinks => "Too many levels of symbolic links (os error 40)"
  | zeroByte => "file name contained an unexpected NUL byte"
  | notText => "stream did not contain valid UTF-8"

end Fault

end NativeBuild
