import PostMarkup.Files.Disk

/-!
A tree of files in memory that answers operations on paths the way a Unix file system does. There
are no links, owners or permissions. Locations are lists of names below the root, which is always a
directory.
-/

namespace PostMarkup

inductive TreeEntry where
  | directory
  | file (bytes : ByteArray)

/-- Files and directories by their location, and the directory at which relative paths start. -/
structure FileTree where
  entries : List (List Text × TreeEntry)
  start : List Text

namespace FileTree

open Text (byteLength)

def entry? (tree : FileTree) (location : List Text) : Option TreeEntry :=
  if location = [] then some .directory else tree.entries.lookup location

def put (tree : FileTree) (location : List Text) (entry : TreeEntry) : FileTree :=
  { tree with
    entries := (location, entry) :: tree.entries.filter fun other => other.1 != location }

def requireDirectory (tree : FileTree) (location : List Text) : Except DiskFault Unit :=
  match tree.entry? location with
  | none => .error .notFound
  | some (.file _) => .error .notDirectory
  | some .directory => .ok ()

/-- The location that steps lead to. Every step starts in an existing directory; what the last step
leads to need not exist. A name has at most 255 bytes. -/
def follow (tree : FileTree) (location : List Text) : List Text → Except DiskFault (List Text)
  | [] => .ok location
  | step :: rest => do
      tree.requireDirectory location
      if step = Path.dot then tree.follow location rest
      else if step = Path.dotDot then tree.follow location.dropLast rest
      else if 255 < byteLength step then .error .nameTooLong
      else tree.follow (location ++ [step]) rest

/-- Where a path starts. A path has at least one byte and fewer than 4096. -/
def startOf (tree : FileTree) (path : Text) : Except DiskFault (List Text) :=
  if path = [] then .error .notFound
  else if 4096 ≤ byteLength path then .error .nameTooLong
  else if Path.isAbsolute path then .ok []
  else .ok tree.start

/-- The steps of a path to something that exists or is to be opened. A slash at the end asks for a
directory, as a dot there does. -/
def openSteps (path : Text) : List Text :=
  if path.getLast? = some '/' then Path.steps path ++ [Path.dot] else Path.steps path

def locate (tree : FileTree) (path : Text) : Except DiskFault (List Text) := do
  let first ← tree.startOf path
  tree.follow first (openSteps path)

def bytesAt (tree : FileTree) (path : Text) : Except DiskFault ByteArray := do
  let location ← tree.locate path
  match tree.entry? location with
  | none => .error .notFound
  | some .directory => .error .isDirectory
  | some (.file bytes) => .ok bytes

def textAt (tree : FileTree) (path : Text) : Except DiskFault Text := do
  let bytes ← tree.bytesAt path
  match String.fromUTF8? bytes with
  | some text => .ok text.toList
  | none => .error .notText

def isDirectoryAt (tree : FileTree) (path : Text) : Bool :=
  match tree.locate path with
  | .ok location =>
      match tree.requireDirectory location with
      | .ok _ => true
      | .error _ => false
  | .error _ => false

/-- The tree with a new directory. The last step has to be a name of its own; a path that ends in a
dot names something that is there already, if it leads anywhere. -/
def withDirectory (tree : FileTree) (path : Text) : Except DiskFault FileTree := do
  let first ← tree.startOf path
  match (Path.steps path).getLast? with
  | none => .error .alreadyExists
  | some last =>
      if last = Path.dot ∨ last = Path.dotDot then
        let location ← tree.follow first (Path.steps path).dropLast
        tree.requireDirectory location
        .error .alreadyExists
      else
        let location ← tree.follow first (Path.steps path)
        match tree.entry? location with
        | some _ => .error .alreadyExists
        | none => .ok (tree.put location .directory)

def withBytes (tree : FileTree) (path : Text) (bytes : ByteArray) : Except DiskFault FileTree := do
  let location ← tree.locate path
  match tree.entry? location with
  | some .directory => .error .isDirectory
  | _ => .ok (tree.put location (.file bytes))

def attempt (change : FileTree → Except DiskFault FileTree) :
    StateM FileTree (Except DiskFault Unit) := fun tree =>
  match change tree with
  | .ok changed => (.ok (), changed)
  | .error fault => (.error fault, tree)

def disk : Disk (StateM FileTree) where
  read path := return (← get).textAt path
  makeDirectory path := attempt (·.withDirectory path)
  isDirectory path := return (← get).isDirectoryAt path
  write path text := attempt (·.withBytes path (String.ofList text).toUTF8)

/-- The empty tree in which relative paths start at a location. The directories down to it exist. -/
def startingAt (location : List Text) : FileTree :=
  { entries := (List.range location.length).map fun count =>
      (location.take (count + 1), .directory)
    start := location }

def addFile (tree : FileTree) (path : Text) (bytes : ByteArray) : FileTree :=
  let location := tree.start ++ (Path.steps path).filter (· ≠ Path.dot)
  let around := (List.range location.length).drop 1 |>.map location.take
  let prepared := around.foldl
    (fun tree place => if (tree.entry? place).isSome then tree else tree.put place .directory) tree
  prepared.put location (.file bytes)

def filesBelowStart (tree : FileTree) : List (Text × ByteArray) :=
  tree.entries.filterMap fun (location, entry) =>
    match entry with
    | .directory => none
    | .file bytes =>
        if tree.start.isPrefixOf location then
          some (Path.ofComponents false (location.drop tree.start.length), bytes)
        else none

end FileTree

end PostMarkup
