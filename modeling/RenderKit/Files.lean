import RenderKit.Error

set_option autoImplicit false

/-! # Files

The files a program can read form a small tree below its current directory. Paths are looked up
name by name, as an operating system does it: a name past a plain file, a name that is too long
and a missing name fail with different reasons, and the first of them decides. -/

namespace RenderKit

/-- What stands under a path. -/
inductive FileNode where
  | directory
  | file (bytes : List UInt8)
deriving DecidableEq, Repr

/-- The known files and directories, by the names on their paths. -/
structure Files where
  entries : List (List String × FileNode)

namespace Files

/-! ## Paths -/

/-- The parts of a path between its slashes. -/
def splitPath (path : String) : List String :=
  let rec go (part : List Char) : List Char → List String
    | [] => [String.ofList part.reverse]
    | '/' :: rest => String.ofList part.reverse :: go [] rest
    | c :: rest => go (c :: part) rest
  go [] path.toList

/-- The names on a path; empty parts and `.` are no names. -/
def pathNames (path : String) : List String :=
  (splitPath path).filter fun part => part ≠ "" && part ≠ "."

/-- The last name of a path, unless it leads upwards or there is none. -/
def fileName? (path : String) : Option String :=
  match (pathNames path).getLast? with
  | some ".." => none
  | name? => name?

/-- A name cut at its last dot. A dot in front of everything else does not count. -/
def splitDot (name : String) : String × Option String :=
  let cs := name.toList
  let behind := cs.reverse.takeWhile (· != '.')
  if behind.length = cs.length then (name, none)
  else
    let front := cs.take (cs.length - behind.length - 1)
    if front.isEmpty then (name, none)
    else (String.ofList front, some (String.ofList behind.reverse))

/-- The name of a file without its extension. -/
def fileStem? (path : String) : Option String := (fileName? path).map fun n => (splitDot n).1

/-- The extension of a file. -/
def extension? (path : String) : Option String := (fileName? path).bind fun n => (splitDot n).2

/-! ## The tree -/

def empty : Files := ⟨[]⟩

/-- The directories above a place. -/
def parents (names : List String) : List (List String) :=
  (List.range names.length).map fun n => names.take n

/-- Put a file or a directory into the tree, with the directories above it. -/
def insert (files : Files) (path : String) (node : FileNode) : Files :=
  let names := pathNames path
  let above := (parents names).map fun p => (p, FileNode.directory)
  ⟨(names, node) :: files.entries.filter (fun e => e.1 ≠ names) ++
    above.filter fun e => files.entries.all fun old => old.1 ≠ e.1⟩

/-- What stands at a place; the current directory always exists. -/
def at? (files : Files) (names : List String) : Option FileNode :=
  if names.isEmpty then some .directory
  else (files.entries.find? fun e => e.1 = names).map (·.2)

/-! ## Look-up -/

def notDirectory : ReadFault := .other "Not a directory (os error 20)"

def isDirectory : ReadFault := .other "Is a directory (os error 21)"

def nameTooLong : ReadFault := .other "File name too long (os error 36)"

/-- The longest name and the longest path, in bytes. -/
def maxName : Nat := 255

def maxPath : Nat := 4095

/-- Follow a path from a place, given as its names in reverse. -/
def walk (files : Files) (place : List String) : List String → Except ReadFault FileNode
  | [] =>
      match files.at? place.reverse with
      | some node => .ok node
      | none => .error .missing
  | part :: rest =>
      match files.at? place.reverse with
      | none => .error .missing
      | some (.file _) => .error notDirectory
      | some .directory =>
          if part = "" || part = "." then walk files place rest
          else if part = ".." then walk files place.tail rest
          else if part.utf8ByteSize > maxName then .error nameTooLong
          else walk files (part :: place) rest

/-- What stands under a path. -/
def lookup (files : Files) (path : String) : Except ReadFault FileNode :=
  if path.toList.contains '\x00' then
    .error (.other "file name contained an unexpected NUL byte")
  else if path = "" then .error .missing
  else if path.utf8ByteSize > maxPath then .error nameTooLong
  else files.walk [] (splitPath path)

/-- The bytes of a file. -/
def readBytes (files : Files) (path : String) : Except ReadFault (List UInt8) :=
  match files.lookup path with
  | .error fault => .error fault
  | .ok .directory => .error isDirectory
  | .ok (.file bytes) => .ok bytes

/-- The text of a file, if its bytes are text. -/
def readText (files : Files) (path : String) : Except ReadFault String :=
  match files.readBytes path with
  | .error fault => .error fault
  | .ok bytes =>
      match String.fromUTF8? ⟨bytes.toArray⟩ with
      | some text => .ok text
      | none => .error (.other "stream did not contain valid UTF-8")

end Files

end RenderKit
