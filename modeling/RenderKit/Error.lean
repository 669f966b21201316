import RenderKit.Text.Quoted

set_option autoImplicit false

/-! # Errors

An error has a kind, which callers act on, and a message for the reader. Running out of graphics
memory carries no message of its own. -/

namespace RenderKit

/-- What went wrong, as far as a caller can react to it. -/
inductive ErrorKind where
  /-- A file or a named thing does not exist. -/
  | notFound
  /-- A file may not be read. -/
  | accessDenied
  /-- A file could not be read for another reason. -/
  | readError
  /-- Malformed input: source text, bytecode, images, attachments. -/
  | invalidFormat
  /-- A required part was not given. -/
  | nullValue
  /-- The operation is not possible now, or not with these sizes. -/
  | invalidState
  /-- The graphics backend refused. -/
  | backendError
  | outOfMemory
deriving DecidableEq, Repr

namespace ErrorKind

def all : List ErrorKind :=
  [.notFound, .accessDenied, .readError, .invalidFormat, .nullValue, .invalidState,
   .backendError, .outOfMemory]

def name : ErrorKind → String
  | .notFound => "NotFound"
  | .accessDenied => "AccessDenied"
  | .readError => "ReadError"
  | .invalidFormat => "InvalidFormat"
  | .nullValue => "NullValue"
  | .invalidState => "InvalidState"
  | .backendError => "BackendError"
  | .outOfMemory => "OutOfMemory"

/-- The words in front of the message. -/
def label : ErrorKind → String
  | .notFound => "Not found"
  | .accessDenied => "Access denied"
  | .readError => "Read error"
  | .invalidFormat => "Invalid format"
  | .nullValue => "Null value"
  | .invalidState => "Invalid state"
  | .backendError => "Backend error"
  | .outOfMemory => "Out of GPU memory"

end ErrorKind

structure Error where
  kind : ErrorKind
  message : String
deriving DecidableEq, Repr

namespace Error

/-- The error of a kind with a message. Out of memory drops the message. -/
def of (kind : ErrorKind) (message : String) : Error :=
  match kind with
  | .outOfMemory => ⟨.outOfMemory, ""⟩
  | kind => ⟨kind, message⟩

@[simp] theorem kind_of (kind : ErrorKind) (message : String) : (of kind message).kind = kind := by
  cases kind <;> rfl

/-- The text shown to a reader. -/
def text (e : Error) : String :=
  match e.kind with
  | .outOfMemory => e.kind.label
  | _ => e.kind.label ++ ": " ++ e.message

/-- The text shown to a developer. -/
def debugText (e : Error) : String :=
  match e.kind with
  | .outOfMemory => e.kind.name
  | _ => e.kind.name ++ "(" ++ quoted e.message ++ ")"

end Error

/-! ## Reading files

Only two reasons for a failed read have a kind of their own. -/

inductive ReadFault where
  | missing
  | denied
  /-- Any other reason, in the words of the operating system. -/
  | other (reason : String)
deriving DecidableEq, Repr

/-- The error for a file that could not be read. -/
def Error.ofRead (fault : ReadFault) (path : String) : Error :=
  match fault with
  | .missing => .of .notFound ("File not found: " ++ path)
  | .denied => .of .accessDenied ("Access denied: " ++ path)
  | .other reason => .of .readError ("Failed to read " ++ path ++ ": " ++ reason)

/-- The error for a failed read of something without a path, in the words given. -/
def Error.ofReason (fault : ReadFault) (reason : String) : Error :=
  match fault with
  | .missing => .of .notFound reason
  | .denied => .of .accessDenied reason
  | .other _ => .of .readError reason

end RenderKit
