/-!
# Refusals of the operating system

What a system call can be refused for, and the words for it.
-/

namespace FunctionHost

/-- Why the operating system refuses something. -/
inductive SystemError where
  /-- Nothing stands at the path. -/
  | notFound
  /-- What stands there may not be run. -/
  | denied
  /-- A directory is needed and something else stands there. -/
  | notDirectory
  /-- A file is needed and a directory stands there. -/
  | isDirectory
  /-- No device has the number. -/
  | noDevice
  /-- What is asked for makes no sense. -/
  | invalidArgument
  /-- Nobody reads what is written. -/
  | brokenPipe
  /-- A path or a name in it is too long. -/
  | nameTooLong
  /-- Somebody listens on the address. -/
  | addressInUse
  /-- The machine does not have the address. -/
  | addressNotAvailable
  /-- A text handed to the system has a zero byte in it. -/
  | zeroByte
  /-- The bytes of a file are no text. -/
  | notText
  /-- A process that has exited cannot be killed. -/
  | exited
  /-- Anything else, in the words of the system. -/
  | other (text : String)
deriving DecidableEq, Repr

/-- The wording of a refusal. -/
def SystemError.message : SystemError → String
  | .notFound => "No such file or directory (os error 2)"
  | .denied => "Permission denied (os error 13)"
  | .notDirectory => "Not a directory (os error 20)"
  | .isDirectory => "Is a directory (os error 21)"
  | .noDevice => "No such device (os error 19)"
  | .invalidArgument => "Invalid argument (os error 22)"
  | .brokenPipe => "Broken pipe (os error 32)"
  | .nameTooLong => "File name too long (os error 36)"
  | .addressInUse => "Address already in use (os error 98)"
  | .addressNotAvailable => "Cannot assign requested address (os error 99)"
  | .zeroByte => "nul byte found in provided data"
  | .notText => "stream did not contain valid UTF-8"
  | .exited => "invalid argument: can't kill an exited process"
  | .other text => text

/-- The refusal that has a number, with the words of the system for it. -/
def SystemError.ofNumber (text : String) : Nat → SystemError
  | 2 => .notFound
  | 13 => .denied
  | 19 => .noDevice
  | 20 => .notDirectory
  | 21 => .isDirectory
  | 22 => .invalidArgument
  | 32 => .brokenPipe
  | 36 => .nameTooLong
  | 98 => .addressInUse
  | 99 => .addressNotAvailable
  | number => .other (text ++ " (os error " ++ toString number ++ ")")

end FunctionHost
