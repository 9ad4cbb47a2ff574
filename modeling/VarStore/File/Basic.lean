/-!
# Reading files

What a file holds is asked for by path, and asking may fail in the few ways listed here.  Nothing
else in the library knows where files come from: whoever needs one is given a `File.Reader`.
-/

namespace VarStore
namespace File

/-- Why a file cannot be read as text. -/
inductive Fault where
  /-- The path holds a NUL, which ends a path. -/
  | nulInPath
  /-- The path, or one of its components, is too long. -/
  | nameTooLong
  /-- Something on the path does not exist. -/
  | missing
  /-- Something on the path is a file where a directory is needed. -/
  | notDirectory
  /-- The path leads to a directory. -/
  | isDirectory
  /-- The file does not hold UTF-8 text. -/
  | notText
  deriving DecidableEq

/-- The fault in words. -/
def Fault.message : Fault → String
  | nulInPath => "file name contained an unexpected NUL byte"
  | nameTooLong => "File name too long (os error 36)"
  | missing => "No such file or directory (os error 2)"
  | notDirectory => "Not a directory (os error 20)"
  | isDirectory => "Is a directory (os error 21)"
  | notText => "stream did not contain valid UTF-8"

/-- What reading the file at a path gives. -/
abbrev Reader := String → Except Fault String

end File
end VarStore
