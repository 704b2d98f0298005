import PostMarkup.Proofs.Content.Joining
import PostMarkup.Proofs.Expansion.Limit
import PostMarkup.Proofs.Placement

/-!
Where the content of a call lands. The texts around the placement of a template are expanded on their
own, and the content takes the first placement of what results. This is the placement of the template
itself as long as no expansion in front of it leaves a placement of its own behind.
-/

namespace PostMarkup

namespace Content

variable {templates : Table} {limit depth : Nat}

theorem interpret_unplaced (content : Content) :
    content.unplaced.interpret limit templates depth = content.interpret limit templates depth := by
  induction content generalizing depth with
  | nil => rfl
  | text run next induction => rw [unplaced, interpret, interpret, induction]
  | call name inner span next innerInduction nextInduction =>
      rw [unplaced, interpret, interpret, innerInduction, nextInduction]

theorem interpret_cons_char (c : Char) (content : Content) :
    (consChar c content).interpret limit templates depth =
      (content.interpret limit templates depth).map (c :: ·) := by
  cases content with
  | nil => simp [consChar, interpret]
  | text run next =>
      simp only [consChar, interpret]
      cases next.interpret limit templates depth <;> rfl
  | call name inner span next => simp [consChar, interpret]

theorem interpret_foldr_cons_char (run : Text) (content : Content) :
    (run.foldr consChar content).interpret limit templates depth =
      (content.interpret limit templates depth).map (run ++ ·) := by
  induction run with
  | nil =>
      rw [List.foldr_nil]
      cases content.interpret limit templates depth <;> rfl
  | cons c run induction =>
      rw [List.foldr_cons, interpret_cons_char, induction]
      cases content.interpret limit templates depth <;> rfl

/-- Joined contents are written one after the other, and so are their faults. -/
theorem interpret_append (front back : Content) :
    (front.append back).interpret limit templates depth =
      (do
        let before ← front.interpret limit templates depth
        let behind ← back.interpret limit templates depth
        return before ++ behind) := by
  induction front with
  | nil =>
      rw [append, interpret]
      cases back.interpret limit templates depth <;> rfl
  | text piece next induction =>
      rw [append, interpret_foldr_cons_char, induction, interpret]
      cases next.interpret limit templates depth with
      | error fault => rfl
      | ok before =>
          cases back.interpret limit templates depth with
          | error fault => rfl
          | ok behind => exact congrArg Except.ok (List.append_assoc piece before behind).symm
  | call name inner span next _ induction =>
      rw [append, interpret, induction, interpret]
      cases inner.interpret limit templates (depth + 1) with
      | error fault => rfl
      | ok filling =>
          cases interpretTemplate limit templates name depth with
          | error fault => rfl
          | ok frame =>
              cases next.interpret limit templates depth with
              | error fault => rfl
              | ok before =>
                  cases back.interpret limit templates depth with
                  | error fault => rfl
                  | ok behind => exact congrArg Except.ok (List.append_assoc _ before behind).symm

theorem interpret_append_ok_iff {front back : Content} {out : Text} :
    (front.append back).interpret limit templates depth = .ok out ↔
      ∃ before behind, front.interpret limit templates depth = .ok before ∧
        back.interpret limit templates depth = .ok behind ∧ out = before ++ behind := by
  rw [interpret_append, Outcome.bind_ok_iff]
  simp only [Outcome.bind_ok_iff]
  constructor
  · intro run
    rcases run with ⟨before, frontRun, behind, backRun, same⟩
    cases same
    exact ⟨before, behind, frontRun, backRun, rfl⟩
  · intro parts
    rcases parts with ⟨before, behind, frontRun, backRun, rfl⟩
    exact ⟨before, frontRun, behind, backRun, rfl⟩

/-- What can be written inside other calls can be expanded on its own. -/
theorem expand_calls_of_interpret {content : Content} {out : Text}
    (wellFormed : content.WellFormed (callable templates)) (fits : content.Fits limit depth)
    (run : content.interpret limit templates depth = .ok out) :
    expandCalls templates limit content.written = .ok out := by
  have outermost : content.Fits limit 0 := by
    unfold Fits at fits ⊢
    omega
  have shallow : content.interpret limit templates 0 = .ok out :=
    (interpret_cut_off le_rfl (Nat.zero_le depth) templates content).eq_ok run
  rw [← interpret_unplaced, ← unplaced_place_from content 0, interpret_unplaced] at shallow
  rw [expand_calls_eq_interpret, ofText, of_text_at_complete wellFormed outermost]
  exact shallow

/-- Contents around a placement, which is a run of text in itself. -/
theorem well_formed_around {callable : Text → Bool} {front back : Content}
    (frontWellFormed : front.WellFormed callable) (backWellFormed : back.WellFormed callable)
    (apart : Call.Apart callable front.written (placement ++ back.written)) :
    (front.append (placement.foldr consChar back)).WellFormed callable := by
  have unopened : ∀ name, Call.IsName name → callable name = true →
      ¬ Call.openingTag name <:+: placement := by
    intro name valid _
    exact valid.isTagName.opening_is_tag.not_infix_of_free (by decide)
  rw [← written_foldr_cons_char] at apart
  apply well_formed_append frontWellFormed _ apart
  exact well_formed_foldr_cons_char backWellFormed
    (Call.uncut_seam unopened (Call.apart_of_free (by decide)))

section SameText

variable {left right : Content} (leftWellFormed : left.WellFormed (callable templates))
  (rightWellFormed : right.WellFormed (callable templates)) (same : left.written = right.written)

include leftWellFormed rightWellFormed same

theorem interpret_eq_of_written_eq :
    left.interpret limit templates depth = right.interpret limit templates depth := by
  rw [← interpret_unplaced left, unplaced_eq_of_written_eq leftWellFormed rightWellFormed same,
    interpret_unplaced]

theorem fits_iff_of_written_eq : left.Fits limit depth ↔ right.Fits limit depth := by
  unfold Fits
  rw [← depth_unplaced left, unplaced_eq_of_written_eq leftWellFormed rightWellFormed same,
    depth_unplaced]

end SameText

end Content

namespace Template

variable {templates : Table} {limit : Nat} {name front back : Text}

/-- The template of the name is a placement between two texts that can each be read without it. -/
structure Framed (templates : Table) (name front back : Text) : Prop where
  listed : templates.get? (Reference.written name) = some (front ++ placement ++ back)
  frontReads : ∃ limit content,
    Content.ofText (templates.erase (Reference.written name)) limit front = .ok content
  backReads : ∃ limit content,
    Content.ofText (templates.erase (Reference.written name)) limit back = .ok content

/-- No tag of another template begins in front of the placement, holds it and ends behind it. -/
def Uncrossed (templates : Table) (name front back : Text) : Prop :=
  ∀ other, Call.IsName other →
    Content.callable (templates.erase (Reference.written name)) other = true →
      ∀ start rest, start <:+ front → rest <+: back →
        Call.openingTag other ≠ start ++ placement ++ rest

theorem Uncrossed.apart (uncrossed : Uncrossed templates name front back) :
    Call.Apart (Content.callable (templates.erase (Reference.written name))) front
      (placement ++ back) := by
  intro other valid called start rest started ended inFront behind same
  -- The tag ends behind the placement, which holds no closing bracket.
  have last : ['>'] <:+ rest := by
    apply List.suffix_of_suffix_length_le ⟨'<' :: other, rfl⟩ ⟨start, same.symm⟩
    exact List.length_pos_iff.2 ended
  have bracket : '>' ∈ rest := last.subset (List.mem_singleton.2 rfl)
  rcases behind with ⟨after, whole⟩
  rcases List.append_eq_append_iff.1 whole with ⟨more, held, -⟩ | ⟨more, held, shape⟩
  · have inside : '>' ∈ placement := by simp [held, bracket]
    exact absurd inside (by decide)
  · subst held
    apply uncrossed other valid called start more inFront ⟨after, shape.symm⟩
    rw [same, List.append_assoc]

theorem uncrossed_of_plain (plain : templates.Plain) : Uncrossed templates name front back := by
  intro other _ called start rest _ _ same
  have others := plain.erase (Reference.written name)
  have held : placement <:+: Call.openingTag other ++ [] := by
    rw [List.append_nil, same]
    exact ⟨start, rest, rfl⟩
  rw [placement_infix_opening_iff (others.name_plain called)] at held
  exact absurd held (by decide)

/-- The expanded template: its placement still stands between the expanded texts around it. -/
theorem Framed.interpret_template (framed : Framed templates name front back)
    (uncrossed : Uncrossed templates name front back) {depth : Nat} {frame : Text}
    (expanded : Content.interpretTemplate limit templates name depth = .ok frame) :
    ∃ before behind,
      expandCalls (templates.erase (Reference.written name)) limit front = .ok before ∧
      expandCalls (templates.erase (Reference.written name)) limit back = .ok behind ∧
      frame = before ++ placement ++ behind := by
  rcases framed with ⟨listed, ⟨_, frontContent, frontRead⟩, ⟨_, backContent, backRead⟩⟩
  obtain ⟨rfl, frontWellFormed, -⟩ := Content.of_text_at_sound frontRead
  obtain ⟨rfl, backWellFormed, -⟩ := Content.of_text_at_sound backRead
  obtain ⟨body, read, run⟩ := (Content.interpret_template_ok_iff listed).1 expanded
  obtain ⟨whole, wellFormed, fits⟩ := Content.of_text_at_sound read
  have joined := Content.well_formed_around frontWellFormed backWellFormed uncrossed.apart
  have same := Content.written_append frontContent (placement.foldr Content.consChar backContent)
  rw [Content.written_foldr_cons_char, ← List.append_assoc, ← whole] at same
  rw [Content.interpret_eq_of_written_eq wellFormed joined same.symm] at run
  rw [Content.fits_iff_of_written_eq wellFormed joined same.symm, Content.fits_append_iff,
    Content.fits_foldr_cons_char_iff] at fits
  obtain ⟨before, rest, frontRun, restRun, rfl⟩ := Content.interpret_append_ok_iff.1 run
  rw [Content.interpret_foldr_cons_char] at restRun
  obtain ⟨behind, backRun, rfl⟩ := Outcome.map_ok_iff.1 restRun
  have frontExpands := Content.expand_calls_of_interpret frontWellFormed fits.1 frontRun
  have backExpands := Content.expand_calls_of_interpret backWellFormed fits.2 backRun
  exact ⟨before, behind, frontExpands, backExpands, by rw [List.append_assoc]⟩

end Template

/-- The name and the text between its tags are read as one call with that text as its content. -/
def Call.Single (templates : Table) (name inner : Text) : Prop :=
  ∃ limit content span, Content.ofText templates limit (Call.written name inner) =
    .ok (.call name content span .nil)

/-- The content of a call takes the first placement of the expanded template. That is the placement
of the template itself when no other stands in the expanded text in front of it. Otherwise the content
lands there, and the placement of the template stays behind. -/
theorem expand_calls_fills_first_placement {templates : Table} {limit : Nat}
    {name front back inner result : Text} (framed : Template.Framed templates name front back)
    (uncrossed : Template.Uncrossed templates name front back)
    (single : Call.Single templates name inner)
    (run : expandCalls templates limit (Call.written name inner) = .ok result) :
    ∃ before filling behind,
      expandCalls (templates.erase (Reference.written name)) limit front = .ok before ∧
      expandCalls templates limit inner = .ok filling ∧
      expandCalls (templates.erase (Reference.written name)) limit back = .ok behind ∧
      (¬ placement <:+: before → result = before ++ filling ++ behind) ∧
      ∀ start rest, before = start ++ placement ++ rest → ¬ placement <:+: start →
        result = start ++ filling ++ rest ++ placement ++ behind := by
  rcases single with ⟨_, content, span, single⟩
  obtain ⟨whole, wellFormed, -⟩ := Content.of_text_at_sound single
  have inside : content.written = inner := by
    simpa [Content.written, Call.written] using whole
  subst inside
  rw [expand_calls_eq_interpret] at run
  obtain ⟨body, read, run⟩ := Outcome.bind_ok_iff.1 run
  obtain ⟨bodyWhole, bodyWellFormed, fits⟩ := Content.of_text_at_sound read
  have same := bodyWhole.trans whole.symm
  rw [Content.interpret_eq_of_written_eq bodyWellFormed wellFormed same,
    Content.interpret_call_ok_iff] at run
  rw [Content.fits_iff_of_written_eq bodyWellFormed wellFormed same, Content.fits_call_iff] at fits
  rcases run with ⟨filling, frame, rest, innerRun, expanded, nextRun, filled⟩
  rw [Content.interpret, Except.ok.injEq] at nextRun
  rw [← nextRun, List.append_nil] at filled
  have innerExpands := Content.expand_calls_of_interpret wellFormed.2.2.2.1 fits.2.1 innerRun
  obtain ⟨before, behind, frontExpands, backExpands, rfl⟩ :=
    framed.interpret_template uncrossed expanded
  refine ⟨before, filling, behind, frontExpands, innerExpands, backExpands, ?_, ?_⟩
  · intro absent
    rw [filled, Text.replace_first_placement absent]
  · intro start rest earlier absent
    have shape : before ++ placement ++ behind =
        start ++ placement ++ (rest ++ placement ++ behind) := by
      simp [earlier]
    rw [filled, shape, Text.replace_first_placement absent]
    simp

def tidyTemplates : Table :=
  ⟨[("$a$".toList, "<b>x</b>\x7b\x7d!".toList), ("$b$".toList, "[\x7b\x7d]".toList)]⟩

theorem expand_calls_fills_placement_behind_call :
    Template.Framed tidyTemplates ['a'] "<b>x</b>".toList ['!'] ∧
      Template.Uncrossed tidyTemplates ['a'] "<b>x</b>".toList ['!'] ∧
      Call.Single tidyTemplates ['a'] "<b>y</b>".toList ∧
      expandCalls tidyTemplates 50 "<a><b>y</b></a>".toList = .ok "[x][y]!".toList ∧
      ∃ before filling behind,
        expandCalls (tidyTemplates.erase "$a$".toList) 50 "<b>x</b>".toList = .ok before ∧
        expandCalls tidyTemplates 50 "<b>y</b>".toList = .ok filling ∧
        expandCalls (tidyTemplates.erase "$a$".toList) 50 ['!'] = .ok behind ∧
        (¬ placement <:+: before → "[x][y]!".toList = before ++ filling ++ behind) ∧
        ∀ start rest, before = start ++ placement ++ rest → ¬ placement <:+: start →
          "[x][y]!".toList = start ++ filling ++ rest ++ placement ++ behind := by
  have frontRead : Content.ofText (tidyTemplates.erase "$a$".toList) 50 "<b>x</b>".toList =
      .ok (.call ['b'] (.text ['x'] .nil) ⟨0, 8⟩ .nil) :=
    Outcome.ok_of_to_option (by decide +kernel)
  have backRead : Content.ofText (tidyTemplates.erase "$a$".toList) 50 ['!'] =
      .ok (.text ['!'] .nil) := Outcome.ok_of_to_option (by decide +kernel)
  have framed : Template.Framed tidyTemplates ['a'] "<b>x</b>".toList ['!'] :=
    ⟨by decide +kernel, ⟨50, _, frontRead⟩, ⟨50, _, backRead⟩⟩
  have plain : tidyTemplates.Plain := by decide +kernel
  have uncrossed : Template.Uncrossed tidyTemplates ['a'] "<b>x</b>".toList ['!'] :=
    Template.uncrossed_of_plain plain
  have single : Call.Single tidyTemplates ['a'] "<b>y</b>".toList :=
    ⟨50, .call ['b'] (.text ['y'] .nil) ⟨3, 11⟩ .nil, ⟨0, 15⟩,
      Outcome.ok_of_to_option (by decide +kernel)⟩
  have run : expandCalls tidyTemplates 50 (Call.written ['a'] "<b>y</b>".toList) =
      .ok "[x][y]!".toList := Outcome.ok_of_to_option (by decide +kernel)
  exact ⟨framed, uncrossed, single, run,
    expand_calls_fills_first_placement framed uncrossed single run⟩

namespace Template

/-- Under all limits that are high enough, the content lands between the expanded texts around the
placement. -/
def FillsItself (templates : Table) (name front back inner : Text) : Prop :=
  ∃ enough, ∀ limit, enough ≤ limit → ∀ result,
    expandCalls templates limit (Call.written name inner) = .ok result →
      ∃ before filling behind,
        expandCalls (templates.erase (Reference.written name)) limit front = .ok before ∧
        expandCalls templates limit inner = .ok filling ∧
        expandCalls (templates.erase (Reference.written name)) limit back = .ok behind ∧
        result = before ++ filling ++ behind

/-- One limit under which the content lands elsewhere is enough, as higher limits change nothing. -/
theorem not_fills_itself {templates : Table} {limit : Nat}
    {name front back inner result before filling behind : Text}
    (run : expandCalls templates limit (Call.written name inner) = .ok result)
    (frontRun : expandCalls (templates.erase (Reference.written name)) limit front = .ok before)
    (innerRun : expandCalls templates limit inner = .ok filling)
    (backRun : expandCalls (templates.erase (Reference.written name)) limit back = .ok behind)
    (missed : result ≠ before ++ filling ++ behind) :
    ¬ FillsItself templates name front back inner := by
  intro fills
  rcases fills with ⟨enough, fills⟩
  have raised : limit ≤ max enough limit := Nat.le_max_right enough limit
  have again : ∀ table text out, expandCalls table limit text = .ok out →
      expandCalls table (max enough limit) text = .ok out := by
    intro table text out reached
    exact (expand_calls_cut_off raised table text).eq_ok reached
  obtain ⟨before', filling', behind', frontAgain, innerAgain, backAgain, landed⟩ :=
    fills _ (Nat.le_max_left enough limit) result (again _ _ _ run)
  rw [again _ _ _ frontRun, Except.ok.injEq] at frontAgain
  rw [again _ _ _ innerRun, Except.ok.injEq] at innerAgain
  rw [again _ _ _ backRun, Except.ok.injEq] at backAgain
  apply missed
  rw [landed, frontAgain, innerAgain, backAgain]

end Template

/-- A template with two placements, one of which it leaves in front of the placement of another. -/
def leftoverTemplates : Table :=
  ⟨[("$a$".toList, "<b>x</b>\x7b\x7d".toList),
    ("$b$".toList, "\x7b\x7d|\x7b\x7d".toList)]⟩

/-- A template that has placements only in the tags of a call. -/
def crossingTemplates : Table :=
  ⟨[("$a$".toList, "<\x7b\x7d></\x7b\x7d>".toList),
    ("$\x7b\x7d$".toList, "k\x7b\x7d".toList)]⟩

/-- Content can land at a placement that another template has left behind, and it can be lost when the
placement of the template stands inside a tag. -/
theorem content_lands_elsewhere :
    (leftoverTemplates.Placed ∧ ¬ placement <:+: "<b>x</b>".toList ∧
      Template.Framed leftoverTemplates ['a'] "<b>x</b>".toList [] ∧
      Template.Uncrossed leftoverTemplates ['a'] "<b>x</b>".toList [] ∧
      Call.Single leftoverTemplates ['a'] ['y'] ∧
      expandCalls leftoverTemplates 50 "<a>y</a>".toList = .ok "x|y\x7b\x7d".toList ∧
      ¬ Template.FillsItself leftoverTemplates ['a'] "<b>x</b>".toList [] ['y']) ∧
    crossingTemplates.Placed ∧ ¬ placement <:+: ['<'] ∧
      Template.Framed crossingTemplates ['a'] ['<'] "></\x7b\x7d>".toList ∧
      Call.Single crossingTemplates ['a'] ['y'] ∧
      expandCalls crossingTemplates 50 "<a>y</a>".toList = .ok ['k'] ∧
      ¬ Template.FillsItself crossingTemplates ['a'] ['<'] "></\x7b\x7d>".toList ['y'] := by
  constructor
  · have frontRead : Content.ofText (leftoverTemplates.erase "$a$".toList) 50 "<b>x</b>".toList =
        .ok (.call ['b'] (.text ['x'] .nil) ⟨0, 8⟩ .nil) :=
      Outcome.ok_of_to_option (by decide +kernel)
    have backRead : Content.ofText (leftoverTemplates.erase "$a$".toList) 50 [] = .ok .nil :=
      Outcome.ok_of_to_option (by decide +kernel)
    have run : expandCalls leftoverTemplates 50 "<a>y</a>".toList = .ok "x|y\x7b\x7d".toList :=
      Outcome.ok_of_to_option (by decide +kernel)
    have single : Call.Single leftoverTemplates ['a'] ['y'] :=
      ⟨50, .text ['y'] .nil, ⟨0, 8⟩, Outcome.ok_of_to_option (by decide +kernel)⟩
    have plain : leftoverTemplates.Plain := by decide +kernel
    have frontRun : expandCalls (leftoverTemplates.erase "$a$".toList) 50 "<b>x</b>".toList =
        .ok "x|\x7b\x7d".toList := Outcome.ok_of_to_option (by decide +kernel)
    have innerRun : expandCalls leftoverTemplates 50 ['y'] = .ok ['y'] :=
      Outcome.ok_of_to_option (by decide +kernel)
    have backRun : expandCalls (leftoverTemplates.erase "$a$".toList) 50 [] = .ok [] :=
      Outcome.ok_of_to_option (by decide +kernel)
    refine ⟨by decide +kernel, by decide +kernel,
      ⟨by decide +kernel, ⟨50, _, frontRead⟩, ⟨50, _, backRead⟩⟩,
      Template.uncrossed_of_plain plain, single, run, ?_⟩
    exact Template.not_fills_itself run frontRun innerRun backRun (by decide)
  · have frontRead : Content.ofText (crossingTemplates.erase "$a$".toList) 50 ['<'] =
        .ok (.text ['<'] .nil) := Outcome.ok_of_to_option (by decide +kernel)
    have backRead : Content.ofText (crossingTemplates.erase "$a$".toList) 50
        "></\x7b\x7d>".toList = .ok (.text "></\x7b\x7d>".toList .nil) :=
      Outcome.ok_of_to_option (by decide +kernel)
    have run : expandCalls crossingTemplates 50 "<a>y</a>".toList = .ok ['k'] :=
      Outcome.ok_of_to_option (by decide +kernel)
    have single : Call.Single crossingTemplates ['a'] ['y'] :=
      ⟨50, .text ['y'] .nil, ⟨0, 8⟩, Outcome.ok_of_to_option (by decide +kernel)⟩
    have frontRun : expandCalls (crossingTemplates.erase "$a$".toList) 50 ['<'] = .ok ['<'] :=
      Outcome.ok_of_to_option (by decide +kernel)
    have innerRun : expandCalls crossingTemplates 50 ['y'] = .ok ['y'] :=
      Outcome.ok_of_to_option (by decide +kernel)
    have backRun : expandCalls (crossingTemplates.erase "$a$".toList) 50 "></\x7b\x7d>".toList =
        .ok "></\x7b\x7d>".toList := Outcome.ok_of_to_option (by decide +kernel)
    refine ⟨by decide +kernel, by decide +kernel,
      ⟨by decide +kernel, ⟨50, _, frontRead⟩, ⟨50, _, backRead⟩⟩, single, run, ?_⟩
    exact Template.not_fills_itself run frontRun innerRun backRun (by decide)

end PostMarkup
