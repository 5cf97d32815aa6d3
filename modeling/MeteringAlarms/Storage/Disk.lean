import MeteringAlarms.Data.OrderedMap
import MeteringAlarms.Data.Text
import MeteringAlarms.Storage.FileSystem

/-!
# A disk

A file system held as a value: what lies at each place, files with their text and directories. A
path is followed from the top, one part after the other. Whatever part comes next, the way so far
must have led to a directory; `.` stays there, `..` goes back, and a slash at the end of a path asks
for a directory. So `a/../b` is nowhere while there is no directory `a`. A name has at most 255
bytes, a path fewer than 4096, and neither holds a NUL.
-/

namespace MeteringAlarms

inductive Disk.Node where
  | directory
  /-- A file with its text; `none` if its bytes are no text. -/
  | file (text? : Option String)
  deriving DecidableEq

structure Disk where
  nodes : OrderedMap Disk.Node := .empty

namespace Disk

instance : Inhabited Disk := ⟨{}⟩

/-- The names that lead from the top to a place. -/
abbrev Place := List String

/-- The key under which the node at a place is kept. -/
def keyOf (place : Place) : String :=
  "/".intercalate place

/-- What lies at a place; the top is a directory. -/
def nodeAt? (disk : Disk) (place : Place) : Option Node :=
  if place.isEmpty then some .directory else disk.nodes.get? (keyOf place)

def setNode (disk : Disk) (place : Place) (node : Node) : Disk :=
  ⟨disk.nodes.insert (keyOf place) node⟩

def eraseNode (disk : Disk) (place : Place) : Disk :=
  ⟨disk.nodes.erase (keyOf place)⟩

/-! ## Following paths -/

/-- The parts of a path, without the empty ones between slashes. -/
def parts (path : String) : List String :=
  ((Text.parts (· = '/') path.toList).map String.ofList).filter (!·.isEmpty)

/-- The place that the parts of a path lead to, from a place on; nothing need lie there. -/
def follow (disk : Disk) : (here : Place) → List String → Except ReadFault Place
  | here, [] => .ok here
  | here, part :: rest =>
    match disk.nodeAt? here with
    | none => .error .missing
    | some (.file _) => .error .notDirectory
    | some .directory =>
      if part = "." then disk.follow here rest
      else if part = ".." then disk.follow here.dropLast rest
      else if 255 < part.utf8ByteSize then .error .nameTooLong
      else disk.follow (here ++ [part]) rest

/-- Why a path leads nowhere on any disk. -/
def pathFault? (path : String) : Option ReadFault :=
  if path.toList.contains '\x00' then some .nulInName
  else if 4096 ≤ path.utf8ByteSize then some .nameTooLong
  else if path.isEmpty then some .missing
  else none

/-- The place that a path leads to. -/
def find (disk : Disk) (path : String) : Except ReadFault Place :=
  match pathFault? path with
  | some fault => .error fault
  | none =>
    disk.follow [] (parts path ++ if path.toList.getLast? = some '/' then ["."] else [])

def isPresent (disk : Disk) (path : String) : Bool :=
  match disk.find path with
  | .ok place => (disk.nodeAt? place).isSome
  | .error _ => false

def isDirectory (disk : Disk) (path : String) : Bool :=
  match disk.find path with
  | .ok place => disk.nodeAt? place = some .directory
  | .error _ => false

/-! ## Directories -/

/--
Makes the last of the parts of a path a directory, in one that is there; a directory that is there
already will do.
-/
def ensureDirectory (parts : List String) (disk : Disk) : Bool × Disk :=
  match disk.follow [] parts with
  | .error _ => (false, disk)
  | .ok place =>
    match disk.nodeAt? place with
    | some .directory => (true, disk)
    | some (.file _) => (false, disk)
    | none => (true, disk.setNode place .directory)

/-- The parts of the paths above a path, outermost first; `.` is no step of its own there. -/
def ancestors (parts : List String) : List (List String) :=
  let steps := parts.filter (· ≠ ".")
  (List.range steps.length).map steps.take

def makeDirectory (path : String) (disk : Disk) : Bool × Disk :=
  if path.isEmpty then (true, disk)
  else if (pathFault? path).isSome then (false, disk)
  else
    (ancestors (parts path) ++ [parts path]).foldl
      (fun (done, disk) parts ↦ if done then disk.ensureDirectory parts else (false, disk))
      (true, disk)

/-! ## Files -/

def read (disk : Disk) (path : String) : Except ReadFault String := do
  match disk.nodeAt? (← disk.find path) with
  | some (.file (some text)) => .ok text
  | some (.file none) => .error .notText
  | some .directory => .error .isDirectory
  | none => .error .missing

/-- Puts a file where a path leads, unless a directory lies there. -/
def putFile (path : String) (text? : Option String) (disk : Disk) : Bool × Disk :=
  match disk.find path with
  | .error _ => (false, disk)
  | .ok place =>
    if disk.nodeAt? place = some .directory then (false, disk)
    else (true, disk.setNode place (.file text?))

def write (path text : String) (disk : Disk) : Bool × Disk :=
  disk.putFile path (some text)

/-- The place and the text of the file that a path leads to. -/
def fileAt? (disk : Disk) (path : String) : Option (Place × Option String) :=
  match disk.find path with
  | .error _ => none
  | .ok place =>
    match disk.nodeAt? place with
    | some (.file text?) => some (place, text?)
    | _ => none

def rename (old new : String) (disk : Disk) : Bool × Disk :=
  match disk.fileAt? old, disk.find new with
  | some (start, text?), .ok target =>
    if disk.nodeAt? target = some .directory then (false, disk)
    else (true, (disk.eraseNode start).setNode target (.file text?))
  | _, _ => (false, disk)

def remove (path : String) (disk : Disk) : Bool × Disk :=
  match disk.fileAt? path with
  | some (place, _) => (true, disk.eraseNode place)
  | none => (false, disk)

/-! ## Whole trees -/

/-- Removes whatever lies where a path leads, and under it. -/
def removeTree (path : String) (disk : Disk) : Disk :=
  match disk.find path with
  | .error _ => disk
  | .ok place =>
    let key := keyOf place
    ⟨.ofList (disk.nodes.entries.filter fun entry ↦
      entry.1 ≠ key && !(key ++ "/").toList.isPrefixOf entry.1.toList)⟩

/-- Puts a file at a path, making the directories above it. -/
def place (path : String) (text? : Option String) (disk : Disk) : Disk :=
  let disk := (ancestors (parts path)).foldl (fun disk parts ↦ (disk.ensureDirectory parts).2) disk
  (disk.putFile path text?).2

/-- The names in a directory, in ascending order; none if it is not there. -/
def list (disk : Disk) (path : String) : List String :=
  match disk.find path with
  | .error _ => []
  | .ok directory =>
    disk.nodes.entries.filterMap fun entry ↦
      let names := parts entry.1
      if names.dropLast = directory then names.getLast? else none

/-- The disk as a file system. -/
def files : FileSystem (StateM Disk) where
  makeDirectory path := fun disk ↦ disk.makeDirectory path
  isPresent path := fun disk ↦ (disk.isPresent path, disk)
  read path := fun disk ↦ (disk.read path, disk)
  write path text := fun disk ↦ disk.write path text
  rename old new := fun disk ↦ disk.rename old new
  remove path := fun disk ↦ disk.remove path

end Disk

end MeteringAlarms
