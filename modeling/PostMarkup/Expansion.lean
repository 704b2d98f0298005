import PostMarkup.Expansion.Calls
import PostMarkup.Expansion.References
import PostMarkup.Text.Words

/-!
Expansion of bodies: white space is collapsed, references are replaced, then calls are expanded.
Bodies do not see one another.
-/

namespace PostMarkup

structure ExpansionOptions where
  unbound : Unbound
  /-- How many calls a call may lie inside. -/
  depthLimit : Nat
deriving DecidableEq

namespace ExpansionOptions

/-- References without a binding vanish, and fifty calls may lie around another one. -/
def standard : ExpansionOptions := ⟨.vanish, 50⟩

end ExpansionOptions

def expandBody (bindings templates : Table) (options : ExpansionOptions) (body : Text) :
    Except Fault Text := do
  let replaced ← replaceReferences bindings options.unbound (Text.collapse body)
  expandCalls templates options.depthLimit replaced

def expandBodies (bindings templates : Table) (options : ExpansionOptions) (bodies : Table) :
    Except Fault Table := do
  let entries ← bodies.entries.mapM fun entry =>
    (expandBody bindings templates options entry.2).map fun body => (entry.1, body)
  return ⟨entries⟩

end PostMarkup
