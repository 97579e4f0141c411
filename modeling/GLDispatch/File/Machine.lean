import GLDispatch.File.Error
import GLDispatch.File.Path
import GLDispatch.File.System

/-! # Machines

What becomes of a file system when a machine reads or writes a file in it. Besides what the file
system itself rules out, a machine may refuse to open a file, and its storage may give out before
all of a content is stored. A file which is opened for writing is emptied at once, so then it is
left with what was stored until the end. -/
namespace GLDispatch

structure Machine where
  working : Place := ["tmp".toList, "work".toList]
  /-- Devices which take whatever is written and keep nothing of it. -/
  sinks : List Place := [["dev".toList, "null".toList]]
  /-- Why the machine does not read a file. -/
  unreadable : Place → Option FileError := fun _ => none
  /-- Why the machine does not open a file for writing. -/
  unwritable : Place → Option FileError := fun _ => none
  /-- After how many bytes of a content the storage gives out, and how it says so. -/
  givesOut : Place → Bytes → Option (Nat × FileError) := fun _ _ => none

inductive Node where
  | directory
  | sink
  | file (content : Bytes)
  deriving DecidableEq, Repr

namespace Machine

/-- A name may have this many bytes. -/
def nameLimit : Nat :=
  255

/-- A path must have fewer bytes than this. -/
def pathLimit : Nat :=
  4096

variable (machine : Machine) (fs : FileSystem)

def located (place : Place) : Location :=
  .ofPlace machine.working place

/-! ## Places -/

/-- A place is a directory if it is listed, holds something, or lies on the way up. -/
def isDirectory (place : Place) : Bool :=
  let l := machine.located place
  l.down.isEmpty || l ∈ fs.directories || fs.directories.any l.encloses ||
    fs.files.keys.any l.encloses || (machine.sinks.map machine.located).any l.encloses

def node? (place : Place) : Option Node :=
  if machine.isDirectory fs place then some .directory
  else if place ∈ machine.sinks then some .sink
  else (fs.files.get? (machine.located place)).map .file

/-- The place which a name stands for at a place, which has to be a directory. -/
def step (place : Place) (name : Text) : Except FileError Place :=
  match machine.node? fs place with
  | none => .error .notFound
  | some .directory =>
    if name = ['.'] then .ok place
    else if name = ['.', '.'] then .ok place.dropLast
    else if nameLimit < (Utf8.encode name).length then .error .nameTooLong
    else .ok (place ++ [name])
  | some _ => .error .notDirectory

def walk (start : Place) (names : List Text) : Except FileError Place :=
  names.foldlM (machine.step fs) start

/-- Where the names of a path are looked up first. -/
def start (path : Text) : Place :=
  if Path.isAbsolute path then [] else machine.working

def checkLength (path : Text) : Except FileError Unit :=
  if pathLimit ≤ (Utf8.encode path).length then .error .nameTooLong else .ok ()

/-- The place to which a path leads. -/
def find (path : Text) : Except FileError Place := do
  checkLength path
  machine.walk fs (machine.start path) (Path.names path)

/-! ## Reading and writing -/

def read (path : Text) : Except FileError Bytes := do
  let place ← machine.find fs path
  match machine.node? fs place with
  | none => .error .notFound
  | some .directory => .error .isDirectory
  | some node =>
    if Path.endsInSlash path then .error .notDirectory
    else match machine.unreadable place, node with
      | some error, _ => .error error
      | none, .file content => .ok content
      | none, _ => .ok []

/-- The place of a file which is opened for writing, present or not. Only a plain name at the end of
the path can be one. -/
def target (path : Text) : Except FileError Place := do
  checkLength path
  let names := Path.names path
  let directory ← machine.walk fs (machine.start path) names.dropLast
  let name := names.getLastD ['.']
  let place ←
    if Path.endsInSlash path then machine.step fs directory ['.']
    else machine.step fs directory name
  if Path.endsInSlash path || name = ['.'] || name = ['.', '.'] || machine.isDirectory fs place then
    .error .isDirectory
  else match machine.unwritable place with
    | some error => .error error
    | none => .ok place

/-- The file system with the content at the place, unless nothing is kept there. -/
def put (place : Place) (content : Bytes) : FileSystem :=
  if place ∈ machine.sinks then fs
  else { fs with files := fs.files.insert (machine.located place) content }

/-- Opens a file, which empties it, and stores the content in it. -/
def write (path : Text) (content : Bytes) : Except FileError Unit × FileSystem :=
  match machine.target fs path with
  | .error error => (.error error, fs)
  | .ok place =>
    let emptied := machine.put fs place []
    match machine.givesOut place content with
    | some (stored, error) => (.error error, machine.put emptied place (content.take stored))
    | none => (.ok (), machine.put emptied place content)

end Machine

/-- Reads a file on a machine which refuses nothing. -/
def FileSystem.read (fs : FileSystem) (path : Text) : Except FileError Bytes :=
  Machine.read {} fs path

end GLDispatch
