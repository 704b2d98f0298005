import PostMarkup.Files.Path
import PostMarkup.Text.Lowercase
import PostMarkup.Text.Quoted
import PostMarkup.Text.Words

/-!
Names of finished posts: the words of a file stem in lowercase, joined by hyphens. The name is used
as the directory of the post.
-/

namespace PostMarkup.Slug

def ofStem (stem : Text) : Text :=
  List.intercalate ['-'] ((Text.words stem).map Text.lowercase)

inductive NameFault where
  | noStem (path : Text)
  | emptyName (path : Text)
deriving DecidableEq

def NameFault.message : NameFault → Text
  | noStem path => "Cannot derive a post name from ".toList ++ Text.quoted path
  | emptyName path =>
      "Post name derived from ".toList ++ Text.quoted path ++ " is empty".toList

def ofPath (path : Text) : Except NameFault Text :=
  match Path.stem? path with
  | none => .error (.noStem path)
  | some stem => if ofStem stem = [] then .error (.emptyName path) else .ok (ofStem stem)

end PostMarkup.Slug
