import MemoryShell.Invocation.Signature

set_option autoImplicit false

namespace MemoryShell

/-- What a method is called on. -/
inductive Receiver
  | volume
  | files
  deriving DecidableEq

def Receiver.name : Receiver → String
  | .volume => "Volume"
  | .files => "VirtualFilesystemBridge"

inductive Method
  | exists
  | stat
  | linkStat
  | access
  | readDirectory
  | readFile
  | writeFile
  | appendFile
  | makeDirectory
  | copyFile
  | remove
  | setTimes
  | setMode
  deriving DecidableEq

namespace Method

def name : Method → String
  | .exists => "exists"
  | .stat => "stat"
  | .linkStat => "lstat"
  | .access => "access"
  | .readDirectory => "readdir"
  | .readFile => "read_file"
  | .writeFile => "write_file"
  | .appendFile => "append_file"
  | .makeDirectory => "mkdir"
  | .copyFile => "copy_file"
  | .remove => "rm"
  | .setTimes => "utimes"
  | .setMode => "chmod"

def all : List Method := [
  .exists, .stat, .linkStat, .access, .readDirectory, .readFile, .writeFile, .appendFile,
  .makeDirectory, .copyFile, .remove, .setTimes, .setMode]

def ofName? (name : String) : Option Method :=
  all.find? fun m => m.name = name

def fullName (r : Receiver) (m : Method) : String :=
  r.name ++ "." ++ m.name

open Parameter in
def parameters : Receiver → Method → List Parameter
  | _, .access => [needed "path", optional "mode" (.integer 0)]
  | .files, .readFile => [needed "path", optional "encoding" (.ofString "utf-8")]
  | .volume, .writeFile => [needed "path", needed "data", named "append" (.bool false)]
  | .files, .writeFile => [needed "path", needed "data"]
  | _, .appendFile => [needed "path", needed "data"]
  | .volume, .makeDirectory => [needed "path", named "recursive" (.bool false)]
  | .files, .makeDirectory => [needed "path", optional "recursive" (.bool false)]
  | _, .copyFile => [needed "source", needed "destination"]
  | .volume, .remove =>
    [needed "path", named "recursive" (.bool false), named "force" (.bool false)]
  | .files, .remove =>
    [needed "path", optional "recursive" (.bool false), optional "force" (.bool false)]
  | .volume, .setTimes => [needed "path", needed "atime", needed "mtime"]
  | .files, .setTimes => [needed "path", optional "atime" .null, optional "mtime" .null]
  | _, .setMode => [needed "path", needed "mode"]
  | _, _ => [needed "path"]

end Method

end MemoryShell
