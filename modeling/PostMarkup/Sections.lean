import PostMarkup.Assignment

/-!
The sections of a document. Three block names are reserved for tables of assignments; every other
block is a body of its own, kept as it was written.
-/

namespace PostMarkup

structure Sections where
  /-- Templates by the written reference to their name. -/
  templates : Table
  /-- Values for the references of a page. -/
  globals : Table
  /-- Values for the references of the bodies. -/
  bindings : Table
  /-- Bodies by the name of their block. -/
  bodies : Table
deriving DecidableEq

namespace Sections

def macrosTitle : Text := "macros".toList

def globalsTitle : Text := "globals".toList

def variablesTitle : Text := "variables".toList

def isReserved (name : Text) : Bool :=
  name = macrosTitle || name = globalsTitle || name = variablesTitle

def empty : Sections := ⟨.empty, .empty, .empty, .empty⟩

/-- Adds one block. Assignments are added to the table of a reserved name, while another name takes
the new body in place of an earlier one. -/
def add (sections : Sections) (name contents : Text) : Except Fault Sections :=
  if name = macrosTitle then
    (sections.templates.fillTemplates contents).result.map fun table =>
      { sections with templates := table }
  else if name = globalsTitle then
    (sections.globals.fillVariables globalsTitle contents).result.map fun table =>
      { sections with globals := table }
  else if name = variablesTitle then
    (sections.bindings.fillVariables variablesTitle contents).result.map fun table =>
      { sections with bindings := table }
  else .ok { sections with bodies := sections.bodies.insert name contents }

def ofBlocks (blocks : Table) : Except Fault Sections :=
  blocks.entries.foldlM (fun sections block => sections.add block.1 block.2) empty

end Sections

end PostMarkup
