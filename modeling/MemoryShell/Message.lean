import MemoryShell.Text.CodePoint

set_option autoImplicit false

namespace MemoryShell

inductive ErrorKind
  | noCommand
  | commandNotFound
  | permissionDenied
  | notADirectory
  | noSuchDirectory
  | invalidOperator
  | missingOperand
  | invalidCommandClass
  | unknown
  deriving DecidableEq

def ErrorKind.word : ErrorKind → String
  | .noCommand => "no_command"
  | .commandNotFound => "command_not_found"
  | .permissionDenied => "permission_denied"
  | .notADirectory => "not_a_directory"
  | .noSuchDirectory => "no_such_directory"
  | .invalidOperator => "invalid_operator"
  | .missingOperand => "missing_operand"
  | .invalidCommandClass => "invalid_command_class"
  | .unknown => "unknown"

def ErrorKind.ofWord? (word : String) : Option ErrorKind :=
  [.noCommand, .commandNotFound, .permissionDenied, .notADirectory, .noSuchDirectory,
    .invalidOperator, .missingOperand, .invalidCommandClass, .unknown].find? fun k => k.word = word

namespace Message

def shellName : String := "bash"

def usualCommand : String := "cd"

def unknown : String := "An unknown error occurred"

def orUnknown (text : Text) : Text :=
  if text = [] then unknown else text

def noCommand (command : Text) : Text :=
  command ++ ": command not provided"

def commandNotFound (command : Text) : Text :=
  command ++ ": command not found"

def permissionDenied (path : Text) : Text :=
  path ++ ": permission denied"

def notADirectory (path command : Text) : Text :=
  command ++ ": " ++ path ++ ": not a directory"

def noSuchDirectory (path command : Text) : Text :=
  command ++ ": " ++ path ++ ": no such file or directory"

def invalidOperator (operator : Text) : Text :=
  operator ++ ": invalid operator"

def missingOperand (command : Text) : Text :=
  command ++ ": missing operand"

def invalidCommandClass (name : Text) : Text :=
  name ++ ": invalid command class"

def directoryNotMade (directory reason : Text) : Text :=
  "mkdir: cannot create directory '" ++ directory ++ "': " ++ reason

def prefixed (message : Text) : Text :=
  shellName ++ ": " ++ message

end Message

end MemoryShell
