/-! Why the system refuses something. -/

set_option autoImplicit false

namespace Modelsmith

inductive FileFault where
  | notPermitted
  | notFound
  | noDevice
  | tooMuch
  | notProgram
  | badDescriptor
  | denied
  | busy
  | alreadyExists
  | notDirectory
  | isDirectory
  | invalid
  | running
  | noSpace
  | nameTooLong
  | notEmpty
  | linkLoop
  | nulInPath
  | notText
  deriving DecidableEq

namespace FileFault

def number? : FileFault → Option Nat
  | .notPermitted => some 1
  | .notFound => some 2
  | .noDevice => some 6
  | .tooMuch => some 7
  | .notProgram => some 8
  | .badDescriptor => some 9
  | .denied => some 13
  | .busy => some 16
  | .alreadyExists => some 17
  | .notDirectory => some 20
  | .isDirectory => some 21
  | .invalid => some 22
  | .running => some 26
  | .noSpace => some 28
  | .nameTooLong => some 36
  | .notEmpty => some 39
  | .linkLoop => some 40
  | .nulInPath => none
  | .notText => none

def reason : FileFault → String
  | .notPermitted => "Operation not permitted"
  | .notFound => "No such file or directory"
  | .noDevice => "No such device or address"
  | .tooMuch => "Argument list too long"
  | .notProgram => "Exec format error"
  | .badDescriptor => "Bad file descriptor"
  | .denied => "Permission denied"
  | .busy => "Device or resource busy"
  | .alreadyExists => "File exists"
  | .notDirectory => "Not a directory"
  | .isDirectory => "Is a directory"
  | .invalid => "Invalid argument"
  | .running => "Text file busy"
  | .noSpace => "No space left on device"
  | .nameTooLong => "File name too long"
  | .notEmpty => "Directory not empty"
  | .linkLoop => "Too many levels of symbolic links"
  | .nulInPath => "file name contained an unexpected NUL byte"
  | .notText => "stream did not contain valid UTF-8"

def message (fault : FileFault) : String :=
  match fault.number? with
  | some number => fault.reason ++ s!" (os error {number})"
  | none => fault.reason

end FileFault

end Modelsmith
