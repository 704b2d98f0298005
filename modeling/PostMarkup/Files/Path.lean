import PostMarkup.Text

/-!
Paths as texts with slashes. Nothing here asks whether a path leads anywhere. Repeated slashes count
as one, and a dot that stands for the directory itself is no component of its own except at the
front of a relative path.
-/

namespace PostMarkup.Path

def dot : Text := ['.']

def dotDot : Text := ['.', '.']

def isAbsolute (path : Text) : Bool := path.head? = some '/'

/-- The texts between the slashes, dots included. -/
def steps (path : Text) : List Text := (path.splitOn '/').filter (· ≠ [])

def components (path : Text) : List Text :=
  match isAbsolute path, steps path with
  | false, first :: rest => first :: rest.filter (· ≠ dot)
  | _, steps => steps.filter (· ≠ dot)

def ofComponents (absolute : Bool) (components : List Text) : Text :=
  (if absolute then ['/'] else []) ++ List.intercalate ['/'] components

def join (directory name : Text) : Text :=
  if directory = [] ∨ directory.getLast? = some '/' then directory ++ name
  else directory ++ '/' :: name

/-- The paths of the directories that lie around the last component of a path, the nearest first.
Neither the root nor the start of a relative path is among them. -/
def parents (path : Text) : List Text :=
  let parts := components path
  (((List.range parts.length).drop 1).reverse).map fun count =>
    ofComponents (isAbsolute path) (parts.take count)

/-- The name of the file that the path leads to; none when it ends in the directory itself or in
the one above. -/
def fileName? (path : Text) : Option Text :=
  match (components path).getLast? with
  | some name => if name = dot ∨ name = dotDot then none else some name
  | none => none

/-- The name without its extension. The extension begins at the last dot, unless nothing stands
before that dot. -/
def withoutExtension (name : Text) : Text :=
  match (name.reverse.dropWhile (· ≠ '.')).drop 1 with
  | [] => name
  | stemRev => stemRev.reverse

def stem? (path : Text) : Option Text := (fileName? path).map withoutExtension

end PostMarkup.Path
