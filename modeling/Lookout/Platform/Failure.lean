import Lookout.Platform

/-! # Failures
Everything that can go wrong has a type of its own: reading a text file (`ReadFault`), a call of the
platform (`CallFailure`), opening a snapshot of it (`SnapshotError`) and the configuration
(`ConfigError`). Each of the last three is made into a `Complaint`, which is what gets logged and
shown: a code, a message, whether the user can mend it, and the causes behind it. -/

namespace Lookout

/-- A **read fault**: why a file has no text. -/
inductive ReadFault
  /-- There is nothing under this path. -/
  | notFound
  /-- The path leads through something that is no directory. -/
  | notDirectory
  /-- The path leads to a directory. -/
  | isDirectory
  /-- The bytes are no text. -/
  | notText
  /-- Another reason, in the words of the system. -/
  | other (reason : String)
  deriving DecidableEq, Repr

/-- The words of the system for a read fault. -/
def ReadFault.message : ReadFault → String
  | .notFound => "No such file or directory (os error 2)"
  | .notDirectory => "Not a directory (os error 20)"
  | .isDirectory => "Is a directory (os error 21)"
  | .notText => "stream did not contain valid UTF-8"
  | .other reason => reason

/-- A **complaint**: a failure as it is logged and shown. -/
structure Complaint where
  /-- A fixed word for programs to go by. -/
  code : String
  /-- What people are told. -/
  message : String
  /-- Whether it is something the user can mend. -/
  isUserError : Bool
  /-- The messages of the causes, the nearest first. -/
  causes : List String
  deriving DecidableEq, Repr

/-- All causes in one text. -/
def Complaint.cause (c : Complaint) : String := String.intercalate ": " c.causes

/-- A **call failure**: why a call of the platform has no answer. -/
inductive CallFailure
  /-- The platform did not answer. -/
  | unavailable (message : String)
  /-- The platform knows no such run. -/
  | runNotFound (target : Target)
  /-- The platform's answer makes no sense. -/
  | invalidResponse (message : String)
  deriving DecidableEq, Repr

namespace CallFailure

/-- What people are told about a call failure. -/
def message : CallFailure → String
  | .unavailable m => "Backend unavailable: " ++ m
  | .runNotFound t => "Task run '" ++ t.display ++ "' not found"
  | .invalidResponse m => "Invalid backend response: " ++ m

/-- The complaint about a call failure. Only a wrong target is something the user can mend. -/
def complaint (f : CallFailure) : Complaint :=
  match f with
  | .unavailable _ => ⟨"BACKEND_UNAVAILABLE", f.message, false, []⟩
  | .runNotFound _ => ⟨"TASK_RUN_NOT_FOUND", f.message, true, []⟩
  | .invalidResponse _ => ⟨"BACKEND_INVALID_RESPONSE", f.message, false, []⟩

end CallFailure

/-- A **snapshot error**: why a file is no snapshot of the platform. -/
inductive SnapshotError
  /-- The file has no text. -/
  | read (path : String) (fault : ReadFault)
  /-- The text is no snapshot; `detail` says what is wrong with it. -/
  | parse (path : String) (detail : String)
  deriving DecidableEq, Repr

namespace SnapshotError

/-- What people are told about a snapshot error. -/
def message : SnapshotError → String
  | .read path fault => "Failed to read fixture '" ++ path ++ "': " ++ fault.message
  | .parse path detail => "Failed to parse fixture '" ++ path ++ "': " ++ detail

/-- The complaint about a snapshot error. -/
def complaint (e : SnapshotError) : Complaint :=
  match e with
  | .read _ fault => ⟨"FIXTURE_READ_FAILED", e.message, false, [fault.message]⟩
  | .parse _ detail => ⟨"FIXTURE_PARSE_FAILED", e.message, true, [detail]⟩

/-- The call failure that a snapshot error amounts to: a file that cannot be read counts as a
platform that does not answer, a text that is no snapshot as an answer that makes no sense. -/
def toCallFailure (e : SnapshotError) : CallFailure :=
  match e with
  | .read .. => .unavailable e.message
  | .parse .. => .invalidResponse e.message

end SnapshotError

/-- A **configuration error**. -/
inductive ConfigError
  /-- A configuration file is no configuration; `detail` says what is wrong with it. -/
  | parse (path : String) (detail : String)
  /-- A configured value cannot be used. -/
  | invalid (message : String)
  /-- Nothing says which snapshot to show. -/
  | missingSnapshot
  /-- A configuration file exists but has no text. -/
  | read (fault : ReadFault)
  deriving DecidableEq, Repr

namespace ConfigError

/-- What people are told about a configuration error. -/
def message : ConfigError → String
  | .parse path detail => "Failed to parse config file '" ++ path ++ "': " ++ detail
  | .invalid m => "Invalid configuration: " ++ m
  | .missingSnapshot => "No fixture data configured. Pass --data <FILE> or set [backend] fixture_path"
  | .read fault => "IO error reading config: " ++ fault.message

/-- The complaint about a configuration error. -/
def complaint (e : ConfigError) : Complaint :=
  match e with
  | .parse .. => ⟨"CONFIG_PARSE_ERROR", e.message, true, []⟩
  | .invalid _ => ⟨"INVALID_CONFIGURATION", e.message, true, []⟩
  | .missingSnapshot => ⟨"CONFIG_MISSING_FIXTURE", e.message, true, []⟩
  | .read fault => ⟨"CONFIG_IO_ERROR", e.message, false, [fault.message]⟩

end ConfigError

end Lookout
