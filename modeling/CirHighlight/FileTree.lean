namespace CirHighlight

/-- What a path leads to. A file may be there that may not be read, or the device that is always
empty. -/
inductive FileEntry where
  | content (bytes : ByteArray)
  | emptyDevice
  | missing
  | directory
  | notDirectory
  | nameTooLong
  | denied

namespace FileEntry

def isFile : FileEntry → Bool
  | .content _ | .denied => true
  | _ => false

inductive ReadError where
  | missing
  | directory
  | notDirectory
  | nameTooLong
  | denied
  | notUtf8
deriving DecidableEq

def ReadError.message : ReadError → String
  | .missing => "No such file or directory (os error 2)"
  | .directory => "Is a directory (os error 21)"
  | .notDirectory => "Not a directory (os error 20)"
  | .nameTooLong => "File name too long (os error 36)"
  | .denied => "Permission denied (os error 13)"
  | .notUtf8 => "stream did not contain valid UTF-8"

def text : FileEntry → Except ReadError String
  | .content bytes =>
    match String.fromUTF8? bytes with
    | some text => .ok text
    | none => .error .notUtf8
  | .emptyDevice => .ok ""
  | .missing => .error .missing
  | .directory => .error .directory
  | .notDirectory => .error .notDirectory
  | .nameTooLong => .error .nameTooLong
  | .denied => .error .denied

end FileEntry

abbrev Files := String → FileEntry

/-- The parts of a path between slashes; empty ones and single points name nothing. -/
def pathParts (path : String) : List String :=
  (path.splitOn "/").filter fun part => part ≠ "" ∧ part ≠ "."

/-- What a name leads to that is not in its directory. A name has at most 255 bytes. -/
def absent (name : String) : FileEntry :=
  if 255 < name.utf8ByteSize then .nameTooLong else .missing

/-- A directory of files in memory, each under the parts of its path. -/
structure FileTree where
  files : List (List String × ByteArray)

namespace FileTree

def entry (tree : FileTree) (parts : List String) : FileEntry :=
  match tree.files.find? (·.1 = parts) with
  | some (_, bytes) => .content bytes
  | none =>
    match parts.getLast? with
    | none => .directory
    | some name =>
      if tree.files.any (parts.isPrefixOf ·.1) then .directory else absent name

/-- What is known of the directories above the tree: that they are there. -/
def above : List String → FileEntry
  | [] => .directory
  | part :: rest => if part = ".." then above rest else absent part

def systemDirectories : List String :=
  ["bin", "boot", "dev", "etc", "home", "lib", "media", "mnt", "opt", "proc", "root", "run",
    "sbin", "srv", "sys", "tmp", "usr", "var"]

/-- What is known of the system outside the tree; `here` holds the parts of the path so far, last
first. -/
def system (here : List String) : List String → FileEntry
  | [] =>
    match here with
    | [] => .directory
    | [name] => if name ∈ systemDirectories then .directory else absent name
    | ["null", "dev"] => .emptyDevice
    | [name, parent] => absent (if parent ∈ systemDirectories then name else parent)
    | _ => .missing
  | part :: rest => system (if part = ".." then here.tail else part :: here) rest

def walk (tree : FileTree) (here : List String) : List String → FileEntry
  | [] => tree.entry here
  | part :: rest =>
    match tree.entry here with
    | .content _ => .notDirectory
    | .directory =>
      if part = ".." then
        if here.isEmpty then above rest else walk tree here.dropLast rest
      else walk tree (here ++ [part]) rest
    | other => other

/-- Looks a path up from the top of the tree. A path that ends in a slash leads to no file, and a
path has at most 4095 bytes. -/
def find (tree : FileTree) : Files := fun path =>
  if path.isEmpty then .missing
  else if 4095 < path.utf8ByteSize then .nameTooLong
  else if path.startsWith "/" then system [] (pathParts path)
  else
    match tree.walk [] (pathParts path) with
    | .content bytes =>
      if path.endsWith "/" || path.endsWith "/." then .notDirectory else .content bytes
    | other => other

end FileTree

end CirHighlight
