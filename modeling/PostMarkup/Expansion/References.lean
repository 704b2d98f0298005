import PostMarkup.Fault
import PostMarkup.Reference
import PostMarkup.Table

/-!
Replacing references by their values. The text is edited from left to right: what lies in front of
the cursor is final. The cursor moves over an inserted value and over the one character after it, so
that a value is never read again and a reference directly behind another one stays as it is.
-/

namespace PostMarkup

open Text (byteLength)

inductive Unbound where
  /-- Nothing is written in its place. -/
  | vanish
  /-- The text is refused. -/
  | refuse
deriving DecidableEq

/-- The value of a reference, or none where a binding is required and missing. -/
def Unbound.value? (unbound : Unbound) (bindings : Table) (reference : Text) : Option Text :=
  match bindings.get? reference, unbound with
  | some value, _ => some value
  | none, .vanish => some []
  | none, .refuse => none

/-- Edits the text behind the cursor. `writtenRev` is the final text in front of it, from its last
character backwards; faults give the number of its bytes. -/
def replaceReferencesFrom (bindings : Table) (unbound : Unbound) (writtenRev : Text) :
    Text → Except Fault Text
  | [] => .ok writtenRev.reverse
  | c :: rest =>
      match _ : Reference.cut? (c :: rest) with
      | none => replaceReferencesFrom bindings unbound (c :: writtenRev) rest
      | some (name, after) =>
          match unbound.value? bindings (Reference.written name) with
          | none => .error (.unboundReference (Reference.written name) (byteLength writtenRev))
          | some value =>
              replaceReferencesFrom bindings unbound
                (after.take 1 ++ (value.reverse ++ writtenRev)) (after.drop 1)
termination_by text => text.length
decreasing_by
  · simp
  · have shorter := Reference.cut_shortens ‹_›
    simp only [List.length_cons, List.length_drop] at shorter ⊢
    omega

def replaceReferences (bindings : Table) (unbound : Unbound) (text : Text) :
    Except Fault Text :=
  replaceReferencesFrom bindings unbound [] text

end PostMarkup
