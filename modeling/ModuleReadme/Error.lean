import ModuleReadme.Files.Path

/-!
# Errors

What can go wrong on the way from a module to its README. Faults are what the system answers when a
file cannot be read or written; errors are what becomes of them in the course of the work. Only a
file that cannot be read is something that the work goes on without.
-/

namespace ModuleReadme

/-!
## Faults of file access

The numbers in the messages are the error numbers of the system.
-/

/-- Why an access to a file fails. -/
inductive Fault where
  | notFound
  | alreadyExists
  | notADirectory
  | isADirectory
  | nameTooLong
  | tooManyLinks
  | permissionDenied
  /-- A path holds a zero byte, which no name can hold. -/
  | zeroByte
  /-- The content of a file is no text. -/
  | notText
  /-- Any other reason, in the words in which it was reported. -/
  | other (reason : String)
  deriving DecidableEq, Repr

def Fault.message : Fault → String
  | .notFound => "No such file or directory (os error 2)"
  | .alreadyExists => "File exists (os error 17)"
  | .notADirectory => "Not a directory (os error 20)"
  | .isADirectory => "Is a directory (os error 21)"
  | .nameTooLong => "File name too long (os error 36)"
  | .permissionDenied => "Permission denied (os error 13)"
  | .tooManyLinks => "Too many levels of symbolic links (os error 40)"
  | .zeroByte => "file name contained an unexpected NUL byte"
  | .notText => "stream did not contain valid UTF-8"
  | .other reason => reason

/-! ## Errors of the work

An error names the step that failed. The messages are those that the user sees, and they lead down
to the fault that caused the error.
-/

inductive Error where
  /-- The module is missing or no directory. -/
  | invalidInput (reason : String)
  /-- A file of the module cannot be read. -/
  | fileRead (path : Path) (fault : Fault)
  /-- The result cannot be written. -/
  | write (path : Path) (fault : Fault)
  /-- What is known about the module cannot be written as text. -/
  | serialization (reason : String)
  deriving DecidableEq, Repr

namespace Error

/-- Whether the work can go on without what failed. -/
def isRecoverable : Error → Bool
  | fileRead _ _ => true
  | _ => false

def fault? : Error → Option Fault
  | fileRead _ fault => some fault
  | write _ fault => some fault
  | _ => none

def message : Error → String
  | invalidInput reason => "无效输入: " ++ reason
  | fileRead path fault => "读取文件失败 " ++ path.display ++ ": " ++ fault.message
  | write path fault => "写入文件失败 " ++ path.display ++ ": " ++ fault.message
  | serialization reason => "序列化错误: " ++ reason

/-! ### The errors of two checks -/

def noModuleAt (root : Path) : Error :=
  invalidInput ("Module path does not exist or is not a directory: " ++ root.display)

/-- A path is no text, and only text can be serialized. -/
def pathIsNoText : Error :=
  serialization "JSON 序列化错误: path contains invalid UTF-8 characters"

end Error

end ModuleReadme
