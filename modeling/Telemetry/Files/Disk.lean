import Telemetry.Basic
import Telemetry.Files.Path

/-! Files and directories below a working directory, with the ways in which reading and writing go
wrong. -/
namespace Telemetry

inductive DiskError where
  | notFound | notADirectory | isADirectory | alreadyExists | nameTooLong | writeProtected
  /-- The path holds a NUL character. -/
  | invalidName
  /-- The content is no UTF-8 text. -/
  | notText
  deriving DecidableEq, Repr

def DiskError.message : DiskError → String
  | notFound => "No such file or directory (os error 2)"
  | notADirectory => "Not a directory (os error 20)"
  | isADirectory => "Is a directory (os error 21)"
  | alreadyExists => "File exists (os error 17)"
  | nameTooLong => "File name too long (os error 36)"
  | writeProtected => "Read-only file system (os error 30)"
  | invalidName => "file name contained an unexpected NUL byte"
  | notText => "stream did not contain valid UTF-8"

/-- What a file holds: a text, or bytes that are none. -/
inductive FileContent where
  | text (content : String)
  | raw (bytes : Bytes)
  deriving DecidableEq, Repr

/-- The content that some bytes make. -/
def FileContent.ofBytes (bytes : Bytes) : FileContent :=
  match String.fromUTF8? ⟨bytes.toArray⟩ with
  | some content => .text content
  | none => .raw bytes

inductive DiskEntry where
  | file (content : FileContent)
  | directory
  deriving DecidableEq, Repr

/-- A place on a disk: the names on the way to it, innermost first. -/
abbrev Place := List String

structure Disk where
  entries : List (Place × DiskEntry) := []
  /-- Nothing can be changed. -/
  writeProtected : Bool := false
  deriving DecidableEq, Repr

namespace Disk

/-- Where a path starts: the root for a path that begins with a slash. -/
def origin (path : String) : Place :=
  if Path.isAbsolute path then ["/"] else []

/-- Longest path and longest name, in bytes. -/
def pathLimit : Nat := 4095

def nameLimit : Nat := 255

def checkPath (path : String) : Except DiskError Unit :=
  if path.toList.contains '\x00' then .error .invalidName
  else if path.isEmpty then .error .notFound
  else if pathLimit < path.utf8ByteSize then .error .nameTooLong
  else .ok ()

/-- What is at a place. The working directory, the root and whatever lies above are directories. -/
def entry? (disk : Disk) (place : Place) : Option DiskEntry :=
  if place.all fun name => name == ".." || name == "/" then some .directory
  else disk.entries.lookup place

/-- Only a directory can be looked into. -/
def checkDirectory (disk : Disk) (place : Place) : Except DiskError Unit :=
  match disk.entry? place with
  | none => .error .notFound
  | some (.file _) => .error .notADirectory
  | some .directory => .ok ()

def isDirectoryAt (disk : Disk) (place : Place) : Bool :=
  disk.entry? place = some .directory

/-- The place that a name leads to from a directory. -/
def child (place : Place) (name : String) : Except DiskError Place :=
  if name = "." then .ok place
  else if name = ".." then
    match place with
    | [] => .ok [".."]
    | ".." :: above => .ok (".." :: ".." :: above)
    | ["/"] => .ok ["/"]
    | _ :: above => .ok above
  else if nameLimit < name.utf8ByteSize then .error .nameTooLong
  else .ok (name :: place)

/-- The directory that some names lead to. -/
def walk (disk : Disk) : Place → List String → Except DiskError Place
  | place, [] =>
    match disk.checkDirectory place with
    | .error error => .error error
    | .ok () => .ok place
  | place, name :: rest =>
    match disk.checkDirectory place with
    | .error error => .error error
    | .ok () =>
      match child place name with
      | .error error => .error error
      | .ok next => disk.walk next rest

/-- The directory in which the last name of a path is looked up, and that name. -/
def approach (disk : Disk) (path : String) : Except DiskError (Place × String) :=
  match checkPath path with
  | .error error => .error error
  | .ok () =>
    let names := Path.names path
    match disk.walk (origin path) names.dropLast with
    | .error error => .error error
    | .ok place => .ok (place, names.getLast?.getD ".")

/-- The place a path leads to, whether or not anything is there. -/
def resolve (disk : Disk) (path : String) : Except DiskError Place :=
  match disk.approach path with
  | .error error => .error error
  | .ok (place, name) => child place name

def isDirectory (disk : Disk) (path : String) : Bool :=
  match disk.resolve path with
  | .error _ => false
  | .ok place => disk.isDirectoryAt place

/-- Reads a whole file. -/
def read (disk : Disk) (path : String) : Except DiskError FileContent :=
  match disk.resolve path with
  | .error error => .error error
  | .ok place =>
    match disk.entry? place with
    | none => .error .notFound
    | some .directory => .error .isADirectory
    | some (.file content) => if Path.endsInSlash path then .error .notADirectory else .ok content

/-- Reads a whole file as text. -/
def readText (disk : Disk) (path : String) : Except DiskError String :=
  match disk.read path with
  | .error error => .error error
  | .ok (.raw _) => .error .notText
  | .ok (.text content) => .ok content

/-- Puts an entry in place of whatever is there. -/
def put (disk : Disk) (place : Place) (entry : DiskEntry) : Disk :=
  { disk with entries := (place, entry) :: disk.entries.filter (·.1 ≠ place) }

/-- Takes away what is at a place. -/
def remove (disk : Disk) (place : Place) : Disk :=
  { disk with entries := disk.entries.filter (·.1 ≠ place) }

/-- Puts an entry on a disk that may be write-protected. -/
def tryPut (disk : Disk) (place : Place) (entry : DiskEntry) : Except DiskError Disk :=
  if disk.writeProtected then .error .writeProtected else .ok (disk.put place entry)

/-- Writes a whole file; its directory has to be there. That the path is a directory's shows before
its last name is looked up. -/
def write (disk : Disk) (path : String) (content : FileContent) : Except DiskError Disk :=
  match disk.approach path with
  | .error error => .error error
  | .ok (directory, name) =>
    if Path.isDots name || Path.endsInSlash path then .error .isADirectory
    else
      match child directory name with
      | .error error => .error error
      | .ok place =>
        if disk.isDirectoryAt place then .error .isADirectory else disk.tryPut place (.file content)

/-- Makes one directory; the one above it has to be there. -/
def makeOne (disk : Disk) (path : String) : Except DiskError Disk :=
  match disk.approach path with
  | .error error => .error error
  | .ok (directory, name) =>
    if Path.isDots name then .error .alreadyExists
    else
      match child directory name with
      | .error error => .error error
      | .ok place =>
        match disk.entry? place with
        | some _ => .error .alreadyExists
        | none => disk.tryPut place .directory

/-- Makes a directory, which is no failure when it is there. -/
def ensureOne (disk : Disk) (path : String) : Except DiskError Unit × Disk :=
  match disk.makeOne path with
  | .ok made => (.ok (), made)
  | .error error => if disk.isDirectory path then (.ok (), disk) else (.error error, disk)

/-- Makes the first of some directories, given from the innermost outwards. Those above it are made
only when it turns out that something is missing. What was made before a failure stays. -/
def ensureStages (disk : Disk) : List String → Except DiskError Unit × Disk
  | [] => (.ok (), disk)
  | path :: above =>
    match disk.makeOne path with
    | .error .notFound =>
      match disk.ensureStages above with
      | (.error error, left) => (.error error, left)
      | (.ok (), ready) => ready.ensureOne path
    | _ => disk.ensureOne path

/-- Makes a directory and all above it, unless they are there. -/
def makeDirectory (disk : Disk) (path : String) : Except DiskError Unit × Disk :=
  disk.ensureStages (Path.stages path)

/-- Writes a file, making its directory first. The directory stays when the file cannot be written. -/
def save (disk : Disk) (path : String) (content : FileContent) : Except DiskError Unit × Disk :=
  match disk.ensureStages (Path.directories path) with
  | (.error error, left) => (.error error, left)
  | (.ok (), ready) =>
    match ready.write path content with
    | .error error => (.error error, ready)
    | .ok written => (.ok (), written)

end Disk

end Telemetry
