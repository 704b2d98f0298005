import PostMarkup.Reference
import PostMarkup.Table
import PostMarkup.Text.Mark

/-!
Filling a page template. Keys are replaced one after the other, each throughout the page, so that a
value may bring in keys that are replaced later. Keys without an occurrence and references without a
key leave the page as it is.
-/

namespace PostMarkup.Page

open Text (replaceAll)

/-- Replaces each key by its value, in the order of the entries. Empty keys do nothing. -/
def inject (entries : List (Text × Text)) (page : Text) : Text :=
  entries.foldl (fun page entry => replaceAll entry.1 entry.2 page) page

/-- Fills in the globals, whose keys are used as they stand. -/
def injectGlobals (globals : Table) (page : Text) : Text := inject globals.entries page

def injectBodies (bodies : Table) (page : Text) : Text :=
  inject (bodies.entries.map fun entry => (Reference.written entry.1, entry.2)) page

def compile (globals bodies : Table) (page : Text) : Text :=
  injectBodies bodies (injectGlobals globals page)

end PostMarkup.Page
