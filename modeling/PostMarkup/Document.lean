import PostMarkup.Expansion
import PostMarkup.Page
import PostMarkup.Scan
import PostMarkup.Sections

/-!
Documents from source text to finished page. Bodies are kept unexpanded, so one document can be
rendered into several pages and with several options.
-/

namespace PostMarkup

structure Document where
  sections : Sections
deriving DecidableEq

namespace Document

def ofText (source : Text) : Except Fault Document := do
  let blocks ← scan source
  let sections ← Sections.ofBlocks blocks
  return ⟨sections⟩

def expand (document : Document) (options : ExpansionOptions) : Except Fault Sections := do
  let bodies ← expandBodies document.sections.bindings document.sections.templates options
    document.sections.bodies
  return { document.sections with bodies := bodies }

def render (document : Document) (options : ExpansionOptions) (page : Text) :
    Except Fault Text := do
  let sections ← document.expand options
  return Page.compile sections.globals sections.bodies page

def compile (options : ExpansionOptions) (source page : Text) : Except Fault Text := do
  let document ← ofText source
  document.render options page

end Document

end PostMarkup
