import PostMarkup.Files.Path

/-!
The operations on files that a run needs, apart from what carries them out. The same run can work on
a real disk and on a tree of files in memory.
-/

namespace PostMarkup

inductive DiskFault where
  | notFound
  | alreadyExists
  | notDirectory
  | isDirectory
  | nameTooLong
  /-- The bytes of a file are not the UTF-8 form of a text. -/
  | notText
  /-- Any other cause, in the words of the system. -/
  | other (description : Text)
deriving DecidableEq

namespace DiskFault

def message : DiskFault → Text
  | notFound => "No such file or directory (os error 2)".toList
  | alreadyExists => "File exists (os error 17)".toList
  | notDirectory => "Not a directory (os error 20)".toList
  | isDirectory => "Is a directory (os error 21)".toList
  | nameTooLong => "File name too long (os error 36)".toList
  | notText => "stream did not contain valid UTF-8".toList
  | other description => description

end DiskFault

structure Disk (m : Type → Type) where
  read : Text → m (Except DiskFault Text)
  /-- Creates one directory inside an existing one. -/
  makeDirectory : Text → m (Except DiskFault Unit)
  isDirectory : Text → m Bool
  /-- Gives a file a new text and creates the file where it is missing. -/
  write : Text → Text → m (Except DiskFault Unit)

namespace Disk

variable {m : Type → Type} [Monad m]

/-- Takes a directory that is there already for one that has been created. -/
def settle (disk : Disk m) (path : Text) : Except DiskFault Unit → m (Except DiskFault Unit)
  | .ok _ => return .ok ()
  | .error fault => do
      if ← disk.isDirectory path then return .ok () else return .error fault

/-- Creates a directory; the further paths are those around it, the nearest first. They are created
only when the directory itself has no place yet. A directory that is there already is no fault. -/
def makeBelow (disk : Disk m) (path : Text) : List Text → m (Except DiskFault Unit)
  | [] => do
      match ← disk.makeDirectory path with
      | .error .notFound => disk.settle path (← disk.makeDirectory path)
      | made => disk.settle path made
  | parent :: rest => do
      match ← disk.makeDirectory path with
      | .error .notFound =>
          match ← makeBelow disk parent rest with
          | .error fault => return .error fault
          | .ok _ => disk.settle path (← disk.makeDirectory path)
      | made => disk.settle path made

def makeDirectories (disk : Disk m) (path : Text) : m (Except DiskFault Unit) :=
  disk.makeBelow path (Path.parents path)

end Disk

end PostMarkup
