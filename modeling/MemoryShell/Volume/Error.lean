import MemoryShell.Path.Basic
import MemoryShell.Text.Decimal
import MemoryShell.Text.Literal

set_option autoImplicit false

namespace MemoryShell

/-- The causes a file system reports. -/
inductive Errno
  | noEntry
  | notDirectory
  | isDirectory
  | exists
  | notPermitted
  | accessDenied
  deriving DecidableEq

namespace Errno

def code : Errno → Nat
  | .notPermitted => 1
  | .noEntry => 2
  | .accessDenied => 13
  | .exists => 17
  | .notDirectory => 20
  | .isDirectory => 21

def message : Errno → String
  | .notPermitted => "Operation not permitted"
  | .noEntry => "No such file or directory"
  | .accessDenied => "Permission denied"
  | .exists => "File exists"
  | .notDirectory => "Not a directory"
  | .isDirectory => "Is a directory"

/-- The class of a cause. Missing permission has one class for both of its causes. -/
def label : Errno → String
  | .notPermitted => "PermissionError"
  | .noEntry => "FileNotFoundError"
  | .accessDenied => "PermissionError"
  | .exists => "FileExistsError"
  | .notDirectory => "NotADirectoryError"
  | .isDirectory => "IsADirectoryError"

def isPermission (e : Errno) : Bool :=
  e = .notPermitted || e = .accessDenied

def isMissing (e : Errno) : Bool :=
  e = .noEntry || e = .notDirectory

end Errno

namespace Volume

inductive Error
  | file (errno : Errno) (path : Text)
  | relative (spelling : Text)
  | released
  | unencodable
  | unknownEncoding (name : String)
  | nullInEncoding
  | endless
  | tooDeep
  deriving DecidableEq

def Error.label : Error → String
  | .file e _ => e.label
  | .relative _ => "ValueError"
  | .released => "VolumeReleasedError"
  | .unencodable => "UnicodeEncodeError"
  | .unknownEncoding _ => "LookupError"
  | .nullInEncoding => "ValueError"
  | .endless => "RecursionError"
  | .tooDeep => "RecursionError"

def Error.message : Error → Text
  | .file e path =>
    ↑("[Errno " ++ String.ofList (Text.writeNat e.code) ++ "] " ++ e.message ++ ": "
      ++ Literal.ofText path)
  | .relative spelling => "volume 路徑必須是絕對路徑: " ++ spelling
  | .released => "volume 已被釋放"
  | .unencodable => "surrogates not allowed"
  | .unknownEncoding name => ↑("unknown encoding: " ++ name)
  | .nullInEncoding => "embedded null character"
  | .endless => "maximum recursion depth exceeded"
  | .tooDeep => "maximum recursion depth exceeded"

end Volume

end MemoryShell
