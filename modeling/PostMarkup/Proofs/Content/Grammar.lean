import PostMarkup.Content.OfText
import PostMarkup.Proofs.Tags

/-!
The written form of content and the content that a text can be read as. Runs of text are maximal and
hold no opening tag of a callable name, and inside a call no run holds the closing tag of that call.
Ranges of bytes are settled by the written form alone, so they can be forgotten and put back.
-/

namespace PostMarkup

open Text (byteLength)

namespace Call

def IsName (name : Text) : Prop := name ≠ [] ∧ ∀ c ∈ name, isNameChar c = true

def written (name inner : Text) : Text := openingTag name ++ inner ++ closingTag name

theorem IsName.isTagName {name : Text} (valid : IsName name) : IsTagName name where
  nonempty := valid.1
  noOpening member := by simpa [isNameChar] using valid.2 _ member
  noClosing member := by simpa [isNameChar] using valid.2 _ member
  noSlash member := by simpa [isNameChar] using valid.2 _ member

end Call

namespace Content

def written : Content → Text
  | nil => []
  | text run next => run ++ next.written
  | call name inner _ next => Call.written name inner.written ++ next.written

def BeginsWithText : Content → Prop
  | text _ _ => True
  | _ => False

/-- No run of text, however deep inside calls, holds the closing tag of the name. -/
def LacksClosing (name : Text) : Content → Prop
  | nil => True
  | text run next => ¬ closingTag name <:+: run ∧ next.LacksClosing name
  | call _ inner _ next => inner.LacksClosing name ∧ next.LacksClosing name

/-- Content whose calls have callable names, whose runs of text are neither empty nor next to one
another, and in which no run holds a tag that would have to be read as a part of a call. -/
def WellFormed (callable : Text → Bool) : Content → Prop
  | nil => True
  | text run next =>
      run ≠ [] ∧ ¬ next.BeginsWithText ∧
        (∀ name, Call.IsName name → callable name = true → ¬ Call.openingTag name <:+: run) ∧
        next.WellFormed callable
  | call name inner _ next =>
      Call.IsName name ∧ callable name = true ∧ inner.LacksClosing name ∧
        inner.WellFormed callable ∧ next.WellFormed callable

def unplaced : Content → Content
  | nil => nil
  | text run next => text run next.unplaced
  | call name inner _ next => call name inner.unplaced ⟨0, 0⟩ next.unplaced

def placeFrom (offset : Nat) : Content → Content
  | nil => nil
  | text run next => text run (next.placeFrom (offset + byteLength run))
  | call name inner _ next =>
      call name (inner.placeFrom (offset + byteLength (Call.openingTag name)))
        ⟨offset, offset + byteLength (Call.written name inner.written)⟩
        (next.placeFrom (offset + byteLength (Call.written name inner.written)))

/-- Every call, at every depth, carries the range of bytes of `source` that holds its written form.
`before` is the part of `source` in front of the content. -/
def Placed (source before : Text) : Content → Prop
  | nil => True
  | text run next => next.Placed source (before ++ run)
  | call name inner span next =>
      before ++ Call.written name inner.written <+: source ∧
        span = ⟨byteLength before, byteLength (before ++ Call.written name inner.written)⟩ ∧
        inner.Placed source (before ++ Call.openingTag name) ∧
        next.Placed source (before ++ Call.written name inner.written)

@[simp]
theorem written_unplaced (content : Content) : content.unplaced.written = content.written := by
  induction content with
  | nil => rfl
  | text run next induction => simp [unplaced, written, induction]
  | call name inner span next innerInduction nextInduction =>
      simp [unplaced, written, innerInduction, nextInduction]

@[simp]
theorem depth_unplaced (content : Content) : content.unplaced.depth = content.depth := by
  induction content with
  | nil => rfl
  | text run next induction => simp [unplaced, depth, induction]
  | call name inner span next innerInduction nextInduction =>
      simp [unplaced, depth, innerInduction, nextInduction]

@[simp]
theorem begins_with_text_unplaced (content : Content) :
    content.unplaced.BeginsWithText ↔ content.BeginsWithText := by
  cases content <;> rfl

@[simp]
theorem lacks_closing_unplaced (name : Text) (content : Content) :
    content.unplaced.LacksClosing name ↔ content.LacksClosing name := by
  induction content with
  | nil => rfl
  | text run next induction => simp [unplaced, LacksClosing, induction]
  | call other inner span next innerInduction nextInduction =>
      simp [unplaced, LacksClosing, innerInduction, nextInduction]

@[simp]
theorem well_formed_unplaced (callable : Text → Bool) (content : Content) :
    content.unplaced.WellFormed callable ↔ content.WellFormed callable := by
  induction content with
  | nil => rfl
  | text run next induction => simp [unplaced, WellFormed, induction]
  | call name inner span next innerInduction nextInduction =>
      simp [unplaced, WellFormed, innerInduction, nextInduction]

@[simp]
theorem unplaced_place_from (content : Content) (offset : Nat) :
    (content.placeFrom offset).unplaced = content.unplaced := by
  induction content generalizing offset with
  | nil => rfl
  | text run next induction => simp [placeFrom, unplaced, induction]
  | call name inner span next innerInduction nextInduction =>
      simp [placeFrom, unplaced, innerInduction, nextInduction]

@[simp]
theorem written_place_from (content : Content) (offset : Nat) :
    (content.placeFrom offset).written = content.written := by
  rw [← written_unplaced, unplaced_place_from, written_unplaced]

/-- Placing content behind `before` gives each call its own bytes of every source that goes on with
the content there. -/
theorem place_from_placed {source before : Text} (content : Content)
    (ahead : before ++ content.written <+: source) :
    (content.placeFrom (byteLength before)).Placed source before := by
  induction content generalizing before with
  | nil => trivial
  | text run next induction =>
      have behind : before ++ run ++ next.written <+: source := by simpa [written] using ahead
      have later := induction behind
      simpa [placeFrom, Placed] using later
  | call name inner span next innerInduction nextInduction =>
      simp only [written, ← List.append_assoc] at ahead
      have whole : before ++ Call.written name inner.written <+: source :=
        (List.prefix_append _ _).trans ahead
      have within : before ++ Call.openingTag name ++ inner.written <+: source := by
        refine List.IsPrefix.trans ⟨closingTag name, ?_⟩ whole
        simp [Call.written]
      have innerPlaced := innerInduction within
      have nextPlaced := nextInduction ahead
      simp only [Text.byte_length_append] at innerPlaced nextPlaced
      refine ⟨?_, ?_, innerPlaced, ?_⟩
      · simpa using whole
      · simp
      · simpa using nextPlaced

/-- Only a run of text can begin with anything but a tag. -/
theorem written_begins_markup {content : Content} (noText : ¬ content.BeginsWithText) :
    BeginsMarkup content.written := by
  cases content with
  | nil => simp [written]
  | text run next => exact absurd trivial noText
  | call name inner span next => simp [written, Call.written, Call.openingTag]

end Content

end PostMarkup
