import PostMarkup.Fault
import PostMarkup.Table
import PostMarkup.Text.Mark
import PostMarkup.Text.Words

/-!
Assignment lines and the tables they fill. A line assigns when it has something on both sides of
its first `:=`; all other lines are ignored. Filling stops at the first line that is refused, and
what was filled before stays visible.
-/

namespace PostMarkup

open Text (cutFirst? trim)

/-- The place in a template that receives the inner content of a call. -/
def placement : Text := ['\x7b', '\x7d']

structure Assignment where
  name : Text
  value : Text
deriving DecidableEq

namespace Assignment

def sign : Text := [':', '=']

/-- Tabs and carriage returns are no part of a line. -/
def isLineChar (c : Char) : Bool := c ≠ '\t' && c ≠ '\r'

def ofLine? (line : Text) : Option Assignment :=
  match cutFirst? sign (line.filter isLineChar) with
  | some (left, right) =>
      if trim left = [] ∨ trim right = [] then none else some ⟨trim left, trim right⟩
  | none => none

def ofText (contents : Text) : List Assignment := (contents.splitOn '\n').filterMap ofLine?

end Assignment

/-- A table after a number of assignments, and the fault of the one that was refused, if any. -/
structure Filling where
  table : Table
  fault : Option Fault
deriving DecidableEq

namespace Filling

def result (filling : Filling) : Except Fault Table :=
  match filling.fault with
  | some fault => .error fault
  | none => .ok filling.table

end Filling

namespace Table

/-- Inserts assignments until `refuse` finds a fault in one, given the table filled so far. -/
def fill (refuse : Table → Assignment → Option Fault) (table : Table) :
    List Assignment → Filling
  | [] => ⟨table, none⟩
  | assignment :: rest =>
      match refuse table assignment with
      | some fault => ⟨table, some fault⟩
      | none => fill refuse (table.insert assignment.name assignment.value) rest

/-- A template needs a placement and a name of its own. The missing placement is reported first. -/
def refuseTemplate (table : Table) (assignment : Assignment) : Option Fault :=
  if Text.occurs placement assignment.value = false then some (.noPlacement assignment.name)
  else if table.contains assignment.name then some (.repeatedTemplate assignment.name)
  else none

/-- A variable needs a name of its own. Faults name the section that was being filled. -/
def refuseVariable (title : Text) (table : Table) (assignment : Assignment) : Option Fault :=
  if table.contains assignment.name then some (.repeatedVariable assignment.name title) else none

def fillTemplates (table : Table) (contents : Text) : Filling :=
  table.fill refuseTemplate (Assignment.ofText contents)

def fillVariables (title : Text) (table : Table) (contents : Text) : Filling :=
  table.fill (refuseVariable title) (Assignment.ofText contents)

end Table

end PostMarkup
