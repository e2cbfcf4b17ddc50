import MemoryShell.Invocation.Signature
import MemoryShell.Message

set_option autoImplicit false

namespace MemoryShell.Message

inductive Template
  | noCommand
  | commandNotFound
  | permissionDenied
  | notADirectory
  | noSuchDirectory
  | invalidOperator
  | missingOperand
  | invalidCommandClass
  | directoryNotMade

namespace Template

def all : List Template := [
  .noCommand, .commandNotFound, .permissionDenied, .notADirectory, .noSuchDirectory,
  .invalidOperator, .missingOperand, .invalidCommandClass, .directoryNotMade]

def name : Template → String
  | .noCommand => "no_command"
  | .commandNotFound => "command_not_found"
  | .permissionDenied => "permission_denied"
  | .notADirectory => "not_a_directory"
  | .noSuchDirectory => "no_such_directory"
  | .invalidOperator => "invalid_operator"
  | .missingOperand => "missing_operand"
  | .invalidCommandClass => "invalid_command_class"
  | .directoryNotMade => "mkdir_create_failed"

open Parameter in
def parameters : Template → List Parameter
  | .permissionDenied => [needed "file_path"]
  | .notADirectory => [needed "path", optional "command" (.ofString usualCommand)]
  | .noSuchDirectory => [needed "path", optional "command" (.ofString usualCommand)]
  | .invalidOperator => [needed "operator"]
  | .missingOperand => [optional "command" (.ofString usualCommand)]
  | .invalidCommandClass => [needed "name"]
  | .directoryNotMade => [needed "directory", needed "reason"]
  | _ => [needed "command"]

/-- The message of a template whose parameters have these texts. -/
def fill (text : String → Text) : Template → Text
  | .noCommand => Message.noCommand (text "command")
  | .commandNotFound => Message.commandNotFound (text "command")
  | .permissionDenied => Message.permissionDenied (text "file_path")
  | .notADirectory => Message.notADirectory (text "path") (text "command")
  | .noSuchDirectory => Message.noSuchDirectory (text "path") (text "command")
  | .invalidOperator => Message.invalidOperator (text "operator")
  | .missingOperand => Message.missingOperand (text "command")
  | .invalidCommandClass => Message.invalidCommandClass (text "name")
  | .directoryNotMade => Message.directoryNotMade (text "directory") (text "reason")

/-- The message of the template of a name. -/
def render (templateName : String) (args : List Argument) : Except Fault Text :=
  match all.find? fun t => t.name = templateName with
  | none => .error (.member "module" templateName)
  | some t =>
    (Assignment.bind t.name t.parameters args []).map fun a =>
      t.fill fun parameter => (a.get parameter).display

end Template

end MemoryShell.Message
