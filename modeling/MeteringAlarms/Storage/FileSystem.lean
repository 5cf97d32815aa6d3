import MeteringAlarms.Failure

/-!
# File systems

The few steps on files that the library takes, as a record of operations in any monad. Steps report
success as a flag: why a step failed is of no concern to those who take it, except when reading.
-/

namespace MeteringAlarms

structure FileSystem (m : Type → Type) where
  /-- Makes a directory and those above it; a directory that is there already will do. -/
  makeDirectory : (path : String) → m Bool
  /-- There is a file or a directory at the path. -/
  isPresent : (path : String) → m Bool
  read : (path : String) → m (Except ReadFault String)
  /-- Writes a file, replacing one that is there. -/
  write : (path text : String) → m Bool
  /-- Moves a file to a path, replacing a file that is there, in one step. -/
  rename : (old new : String) → m Bool
  remove : (path : String) → m Bool

namespace FileSystem

variable {m n : Type → Type}

/-- The same file system in another monad. -/
def hoist (f : {α : Type} → m α → n α) (files : FileSystem m) : FileSystem n where
  makeDirectory path := f (files.makeDirectory path)
  isPresent path := f (files.isPresent path)
  read path := f (files.read path)
  write path text := f (files.write path text)
  rename old new := f (files.rename old new)
  remove path := f (files.remove path)

/-- The path of a name in a directory. -/
def join (directory name : String) : String :=
  if directory.isEmpty then name
  else if directory.toList.getLast? = some '/' then directory ++ name
  else directory ++ "/" ++ name

end FileSystem

end MeteringAlarms
