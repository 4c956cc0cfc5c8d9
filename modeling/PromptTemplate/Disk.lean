import PromptTemplate.Disk.Path
import PromptTemplate.Table
import PromptTemplate.Text.Quoted
import PromptTemplate.Text.Utf8
/-!
# Disks

A disk holds regular files and directories, each at the names that lead to it from the root, and a
working directory from which relative paths start. A path is followed name by name: every name
but the last must lead to a directory, so a path through something that is not there leads
nowhere, even if a double dot takes it back. Names and paths have a greatest length, and a path
that holds a NUL is not looked up at all. Names are texts: what is called by octets that are no
text has no place here.
-/

namespace PromptTemplate

/-- Names that lead from the root to a place. -/
abbrev Place := List String

/-- What stands at a place: a file with its octets and permission bits, or a directory. -/
inductive DiskEntry where
  | file (octets : List UInt8) (mode : Nat)
  | directory
  deriving Repr, DecidableEq

/-- The entry is a file. -/
def DiskEntry.isFile : DiskEntry → Bool
  | .file _ _ => true
  | .directory => false

/-- What goes wrong with a path. -/
inductive FileFault where
  | notFound
  | isDirectory
  | notDirectory
  | alreadyExists
  | nameTooLong
  /-- The path holds a NUL, which no name can. -/
  | nulInPath
  deriving Repr, DecidableEq

/-- A file operation that failed: what went wrong, the call, and the path if the call names it. -/
structure FileError where
  fault : FileFault
  call : String
  path : Option String
  deriving Repr, DecidableEq

/-- The code of a fault. -/
def FileFault.code : FileFault → String
  | notFound => "ENOENT"
  | isDirectory => "EISDIR"
  | notDirectory => "ENOTDIR"
  | alreadyExists => "EEXIST"
  | nameTooLong => "ENAMETOOLONG"
  | nulInPath => "ERR_INVALID_ARG_VALUE"

/-- What a fault is called. -/
def FileFault.description : FileFault → String
  | notFound => "no such file or directory"
  | isDirectory => "illegal operation on a directory"
  | notDirectory => "not a directory"
  | alreadyExists => "file already exists"
  | nameTooLong => "name too long"
  | nulInPath => "must be a string, Uint8Array, or URL without null bytes"

/-- The wording for an argument that cannot be used. -/
def unusable (argument description value : String) : String :=
  "The argument '" ++ argument ++ "' " ++ description ++ ". Received " ++ Text.quotedShort value

/-- The wording of a failed file operation. A path that cannot be looked up is shown as a text. -/
def FileError.message (e : FileError) : String :=
  match e.fault with
  | .nulInPath => unusable "path" e.fault.description (e.path.getD "")
  | fault =>
    fault.code ++ ": " ++ fault.description ++ ", " ++ e.call ++
      match e.path with
      | none => ""
      | some path => " '" ++ path ++ "'"

/-- The kind of a failed file operation and its wording. -/
def FileError.line (e : FileError) : String :=
  match e.fault with
  | .nulInPath => "TypeError [" ++ e.fault.code ++ "]: " ++ e.message
  | _ => "Error: " ++ e.message

/-- Files and directories, and the working directory. -/
structure Disk where
  contents : Table Place DiskEntry
  cwd : Place

namespace Disk

/-- What stands at a place; the root is always a directory. -/
def at? (d : Disk) (place : Place) : Option DiskEntry :=
  if place = [] then some .directory else d.contents.get? place

/-- Follow names from a place. -/
def follow (d : Disk) (place : Place) : List String → Except FileFault Place
  | [] => .ok place
  | name :: names =>
    match d.at? place with
    | none => .error .notFound
    | some (.file _ _) => .error .notDirectory
    | some .directory =>
      if name = "" ∨ name = "." then d.follow place names
      else if name = ".." then d.follow place.dropLast names
      else if Path.isTooLongName name then .error .nameTooLong
      else d.follow (place ++ [name]) names

/-- The place that a path starts from. -/
def startOf (d : Disk) (path : String) : Place := if Path.isAbsolute path then [] else d.cwd

/-- What is wrong with a path whatever there is on the disk. -/
def pathFault? (path : String) : Option FileFault :=
  if '\x00' ∈ path.toList then some .nulInPath
  else if path = "" then some .notFound
  else if Path.isTooLong path then some .nameTooLong
  else none

/-- The place that a path leads to, and what stands there. -/
def find (d : Disk) (path : String) : Except FileFault (Place × DiskEntry) :=
  match pathFault? path with
  | some fault => .error fault
  | none => do
    let place ← d.follow (d.startOf path) (Path.names path)
    match d.at? place with
    | none => .error .notFound
    | some entry => .ok (place, entry)

/-- The path leads to something. -/
def pathExists (d : Disk) (path : String) : Bool := (d.find path).toOption.isSome

/-- The octets of the file at a path. -/
def read (d : Disk) (path : String) : Except FileError (List UInt8) :=
  match d.find path with
  | .error fault => .error ⟨fault, "open", some path⟩
  | .ok (_, .directory) => .error ⟨.isDirectory, "read", none⟩
  | .ok (_, .file octets _) => .ok octets

/-- The text of the file at a path. -/
def readText (d : Disk) (path : String) : Except FileError String := do
  let octets ← d.read path
  .ok (Text.decode octets)

/-- What stands at a path. -/
def stat (d : Disk) (path : String) : Except FileError DiskEntry :=
  match d.find path with
  | .error fault => .error ⟨fault, "stat", some path⟩
  | .ok (_, entry) => .ok entry

/-- The permission bits of the file at a path. -/
def mode? (d : Disk) (path : String) : Option Nat :=
  match d.find path with
  | .ok (_, .file _ mode) => some mode
  | _ => none

/-- The name of a place within a directory, if it stands directly in it. -/
def nameIn? (directory place : Place) : Option String :=
  match place.getLast? with
  | none => none
  | some name => if place.dropLast = directory then some name else none

/-- What stands directly in a directory, by name. -/
def children (d : Disk) (directory : Place) : List (String × DiskEntry) :=
  d.contents.entries.filterMap fun e => (nameIn? directory e.1).map fun name => (name, e.2)

/-- What stands in the directory at a path, by name. -/
def list (d : Disk) (path : String) : Except FileError (List (String × DiskEntry)) :=
  match d.find path with
  | .error fault => .error ⟨fault, "scandir", some path⟩
  | .ok (_, .file _ _) => .error ⟨.notDirectory, "scandir", some path⟩
  | .ok (place, .directory) => .ok (d.children place)

/-! ## Changes -/

/-- Put an entry at a place. -/
def put (d : Disk) (place : Place) (entry : DiskEntry) : Disk :=
  { d with contents := d.contents.insert place entry }

/-- The directory in which a path looks up its last name, and that name, whatever it leads to. A
path of slashes alone has none. -/
def lastStep? (d : Disk) (path : String) : Except FileFault (Option (Place × String)) :=
  match (Path.names path).reverse.dropWhile (· = "") with
  | [] => .ok none
  | name :: before => do
    let directory ← d.follow (d.startOf path) before.reverse
    match d.at? directory with
    | none => .error .notFound
    | some (.file _ _) => .error .notDirectory
    | some .directory => .ok (some (directory, name))

/-- The name leads back to where a path already is. -/
def isDots (name : String) : Bool := name == "." || name == ".."

/-- Make the directory at a path, at which nothing may stand. -/
def makeOne (d : Disk) (path : String) : Except FileFault Disk := do
  match ← d.lastStep? path with
  | none => .error .alreadyExists
  | some (directory, name) =>
    let place := directory ++ [name]
    if isDots name then .error .alreadyExists
    else if Path.isTooLongName name then .error .nameTooLong
    else if (d.at? place).isSome then .error .alreadyExists
    else .ok (d.put place .directory)

/-- Make the directories at some paths, one after another, until something else than a directory
stands in the way. The directories that were made before that stay. -/
def makeEach (d : Disk) : List String → Option FileFault × Disk
  | [] => (none, d)
  | path :: rest =>
    match d.makeOne path with
    | .ok d => d.makeEach rest
    | .error _ =>
      match d.find path with
      | .ok (_, .directory) => d.makeEach rest
      | .ok (_, .file _ _) => (some (if rest.isEmpty then .alreadyExists else .notDirectory), d)
      | .error fault => (some fault, d)

/-- Make a directory and every directory on the way to it: what keeps it from being made, and the
disk with those that could be made. -/
def makeDirectory (d : Disk) (path : String) : Option FileError × Disk :=
  let (fault, d) :=
    match pathFault? path with
    | some fault => (some fault, d)
    | none => d.makeEach (Path.steps path)
  (fault.map fun fault => ⟨fault, "mkdir", some path⟩, d)

/-- Put an entry at a place, with every directory on the way to it. -/
def putDeep (d : Disk) (place : Place) (entry : DiskEntry) : Disk :=
  (d.makeEach (Path.steps (Path.absolute place.dropLast))).2.put place entry

/-- Take away a place and everything under it. -/
def remove (d : Disk) (place : Place) : Disk :=
  { d with
    contents := ⟨d.contents.entries.filter fun e => !place.isPrefixOf e.1,
      d.contents.nodup.sublist (List.filter_sublist.map _)⟩ }

/-- The place of a file that need not be there yet. A path that ends in a slash names none. -/
def placeFor (d : Disk) (path : String) : Except FileFault Place :=
  match pathFault? path with
  | some fault => .error fault
  | none => do
    match ← d.lastStep? path with
    | none => .error .isDirectory
    | some (directory, name) =>
      let place := directory ++ [name]
      if Path.endsWithSlash path || isDots name || d.at? place = some .directory then
        .error .isDirectory
      else if Path.isTooLongName name then .error .nameTooLong
      else .ok place

/-- Write a text behind the file at a path, which is made if need be. -/
def append (d : Disk) (path text : String) : Except FileError Disk :=
  match d.placeFor path with
  | .error fault => .error ⟨fault, "open", some path⟩
  | .ok place =>
    match d.at? place with
    | some (.file octets mode) => .ok (d.put place (.file (octets ++ Text.encode text) mode))
    | _ => .ok (d.put place (.file (Text.encode text) 0o644))

/-! ## Facts -/

@[simp] theorem at?_root (d : Disk) : d.at? [] = some .directory := rfl

theorem at?_put (d : Disk) (place place' : Place) (entry : DiskEntry) (h : place' ≠ []) :
    (d.put place entry).at? place' = if place' = place then some entry else d.at? place' := by
  simp [at?, put, h, Table.get?_insert]

end Disk

end PromptTemplate
