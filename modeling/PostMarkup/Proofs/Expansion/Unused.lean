import Mathlib.Data.List.Find
import Mathlib.Data.List.Infix
import PostMarkup.Proofs.Expansion.MissingBinding
import PostMarkup.Proofs.Expansion.Termination

/-!
What an expansion depends on. A table of templates is consulted for the names whose opening tags stand
in the body or in a template, and a table of values for the references that stand in the text. Entries
for other names change neither the result nor the fault, wherever they lie in the table.
-/

namespace PostMarkup

open Call (IsName cutOpening? openingTag)
open Text (byteLength)

section Reading

variable {callable other : Text → Bool} {text : Text}

theorem Call.cut_opening_congr
    (same : ∀ name, IsName name → openingTag name <:+: text → callable name = other name) :
    cutOpening? callable text = cutOpening? other text := by
  apply Option.ext
  intro parts
  rcases parts with ⟨name, after⟩
  rw [cut_opening_eq_some_iff, cut_opening_eq_some_iff]
  apply and_congr_right
  intro valid
  rw [and_congr_left_iff]
  intro whole
  rw [same name valid ⟨[], after, whole.symm⟩]

/-- Reading depends on which of the tags in the text are callable. -/
theorem Content.of_text_at_congr {limit depth offset : Nat}
    (same : ∀ name, IsName name → openingTag name <:+: text → callable name = other name) :
    ofTextAt callable limit depth offset text = ofTextAt other limit depth offset text := by
  fun_induction ofTextAt callable limit depth offset text with
  | case1 depth offset => rw [of_text_at_nil]
  | case2 depth offset c rest uncut induction =>
      have later := induction fun name valid found => same name valid (List.infix_cons found)
      rw [Call.cut_opening_congr same] at uncut
      rw [of_text_at_plain uncut, later]
  | case3 depth offset c rest name after opened tooDeep =>
      rw [Call.cut_opening_congr same] at opened
      obtain ⟨valid, called, whole⟩ := Call.cut_opening_eq_some_iff.1 opened
      rw [whole, of_text_at_call valid called, if_pos tooDeep]
  | case4 depth offset c rest name after opened within unclosed =>
      rw [Call.cut_opening_congr same] at opened
      obtain ⟨valid, called, whole⟩ := Call.cut_opening_eq_some_iff.1 opened
      rw [whole, of_text_at_call valid called, if_neg within, unclosed]
  | case5 depth offset c rest name after opened within inner behind closed start stop
      innerInduction =>
      rename_i nextInduction
      rw [Call.cut_opening_congr same] at opened
      obtain ⟨valid, called, whole⟩ := Call.cut_opening_eq_some_iff.1 opened
      have parts : c :: rest = openingTag name ++ inner ++ (closingTag name ++ behind) := by
        rw [whole, Call.cut_inner_sound closed]
        simp only [List.append_assoc]
      have innerWithin : inner <:+: c :: rest := ⟨openingTag name, _, parts.symm⟩
      have behindWithin : behind <:+: c :: rest :=
        ⟨openingTag name ++ inner ++ closingTag name, [], by simp [parts]⟩
      have readInner := innerInduction fun name valid found =>
        same name valid (found.trans innerWithin)
      have readNext := nextInduction fun name valid found =>
        same name valid (found.trans behindWithin)
      have stops : stop = offset + byteLength (Call.written name inner) := by
        simp only [stop, start, Call.written, Text.byte_length_append]
        omega
      rw [whole, of_text_at_call valid called, if_neg within, closed]
      simp only [← stops]
      rw [readInner, readNext]

end Reading

namespace Content

/-- Every call is written with its opening tag. -/
theorem opening_infix_of_calls {callable : Text → Bool} {content : Content} {name : Text}
    (wellFormed : content.WellFormed callable) (calls : content.Calls name) :
    IsName name ∧ openingTag name <:+: content.written := by
  induction content with
  | nil => cases calls
  | text run next induction =>
      rcases wellFormed with ⟨-, -, -, nextWellFormed⟩
      obtain ⟨valid, found⟩ := induction nextWellFormed calls
      exact ⟨valid, List.infix_append_of_infix_right found⟩
  | call other inner span next innerInduction nextInduction =>
      rcases wellFormed with ⟨validOther, -, -, innerWellFormed, nextWellFormed⟩
      rcases calls with rfl | innerCalls | nextCalls
      · refine ⟨validOther, List.infix_append_of_infix_left ?_⟩
        exact ⟨[], inner.written ++ closingTag name, by simp [Call.written]⟩
      · obtain ⟨valid, found⟩ := innerInduction innerWellFormed innerCalls
        have within : inner.written <:+: Call.written other inner.written :=
          ⟨openingTag other, closingTag other, rfl⟩
        exact ⟨valid, List.infix_append_of_infix_left (found.trans within)⟩
      · obtain ⟨valid, found⟩ := nextInduction nextWellFormed nextCalls
        exact ⟨valid, List.infix_append_of_infix_right found⟩

/-- Writing content depends on the templates of the names that are called. -/
theorem render_congr {template other : Text → Nat → Except Fault Text} {content : Content}
    {depth : Nat} (same : ∀ name, content.Calls name → template name = other name) :
    content.render template depth = content.render other depth := by
  induction content generalizing depth with
  | nil => rfl
  | text run next induction => rw [render, render, induction same]
  | call name inner span next innerInduction nextInduction =>
      have innerSame : inner.render template (depth + 1) = inner.render other (depth + 1) :=
        innerInduction fun called calls => same called (Or.inr (Or.inl calls))
      have nextSame : next.render template depth = next.render other depth :=
        nextInduction fun called calls => same called (Or.inr (Or.inr calls))
      rw [render, render, innerSame, nextSame, same name (Or.inl rfl)]

/-- Content that has been read calls only names whose opening tags stand in the text. -/
theorem render_congr_of_read {callable : Text → Bool} {template other : Text → Nat → Except Fault Text}
    {limit depth offset level : Nat} {text : Text} {content : Content}
    (read : ofTextAt callable limit depth offset text = .ok content)
    (same : ∀ name, IsName name → openingTag name <:+: text → template name = other name) :
    content.render template level = content.render other level := by
  obtain ⟨rfl, wellFormed, -⟩ := of_text_at_sound read
  apply render_congr
  intro name calls
  obtain ⟨valid, tagged⟩ := opening_infix_of_calls wellFormed calls
  exact same name valid tagged

end Content

namespace Table

/-- The tables give the same templates to the names whose opening tags stand in the text. -/
def AlikeIn (templates others : Table) (text : Text) : Prop :=
  ∀ name, IsName name → openingTag name <:+: text →
    templates.get? (Reference.written name) = others.get? (Reference.written name)

def AlikeInside (templates others : Table) : Prop :=
  ∀ name source, templates.get? (Reference.written name) = some source →
    templates.AlikeIn others source

end Table

section Expanding

variable {templates others : Table} {limit : Nat} {text : Text}

theorem Template.callable_congr {name : Text} (active : List Text)
    (same : templates.get? (Reference.written name) = others.get? (Reference.written name)) :
    callable templates active name = callable others active name := by
  simp only [callable, Content.callable, Table.contains, same]

/-- A template is expanded alike when the tables are alike in all that it can open. The induction is on
the names that are not active. -/
theorem Template.expand_congr (inside : templates.AlikeInside others) {active : List Text}
    {name : Text} (same : templates.get? (Reference.written name) = others.get? (Reference.written name)) :
    expand templates limit active name = expand others limit active name := by
  induction count : (idleKeys templates active).length using Nat.strongRecOn
    generalizing active name with
  | ind count induction =>
      funext depth
      by_cases free : callable templates active name = true
      · obtain ⟨-, source, found, opens⟩ := expand_of_callable free
        have fewer := idle_keys_shorten free
        rw [count] at fewer
        have alike := inside name source found
        rw [callable_congr active same] at free
        obtain ⟨-, otherSource, otherFound, otherOpens⟩ := expand_of_callable free
        rw [same, otherFound, Option.some.injEq] at found
        subst found
        have reads : Content.ofTextAt (callable templates (name :: active)) limit (depth + 1) 0
            otherSource = Content.ofTextAt (callable others (name :: active)) limit (depth + 1) 0
              otherSource := by
          apply Content.of_text_at_congr
          intro other valid tagged
          exact callable_congr (name :: active) (alike other valid tagged)
        rw [opens, otherOpens, reads]
        cases read : Content.ofTextAt (callable others (name :: active)) limit (depth + 1) 0
            otherSource with
        | error fault => rfl
        | ok body =>
            apply Content.render_congr_of_read read
            intro other valid tagged
            exact induction _ fewer (alike other valid tagged) rfl
      · have other := free
        rw [callable_congr active same] at other
        rw [expand, dif_neg free, expand, dif_neg other]

/-- Expansion depends on the templates of the names whose opening tags stand in the text or in a
template. -/
theorem expand_calls_congr (inside : templates.AlikeInside others)
    (alike : templates.AlikeIn others text) :
    expandCalls templates limit text = expandCalls others limit text := by
  have reads : Content.ofText templates limit text = Content.ofText others limit text := by
    apply Content.of_text_at_congr
    intro name valid tagged
    simp only [Content.callable, Table.contains, alike name valid tagged]
  unfold expandCalls
  rw [reads]
  cases read : Content.ofText others limit text with
  | error fault => rfl
  | ok content =>
      apply Content.render_congr_of_read read
      intro name valid tagged
      exact Template.expand_congr inside (alike name valid tagged)

/-- Replacing references depends on the values of the references in the text. -/
theorem replace_references_congr {bindings others : Table} (unbound : Unbound)
    (same : ∀ name, IsWord name → Reference.written name <:+: text →
      bindings.get? (Reference.written name) = others.get? (Reference.written name)) :
    replaceReferences bindings unbound text = replaceReferences others unbound text := by
  have values : ∀ reference ∈ consumed text,
      unbound.value? bindings reference = unbound.value? others reference := by
    intro reference member
    obtain ⟨name, word, rfl, found⟩ := exists_name_of_mem_consumed member
    simp only [Unbound.value?, same name word found]
  have missing : (consumed text).find? (fun reference => (unbound.value? bindings reference).isNone) =
      (consumed text).find? fun reference => (unbound.value? others reference).isNone := by
    apply List.find?_congr
    intro reference member
    rw [values reference member]
  rw [replaceReferences, replaceReferences, replace_references_from_eq, replace_references_from_eq,
    one_pass_congr text values, missing]

end Expanding

section Entries

variable {front back : List (Text × Text)} {key template text : Text} {limit : Nat}

/-- An entry has no effect when its key is the reference to a name whose opening tag stands nowhere. -/
theorem expand_calls_of_idle_entry
    (idle : ∀ name, IsName name → Reference.written name = key →
      ¬ openingTag name <:+: text ∧ ∀ entry ∈ front ++ back, ¬ openingTag name <:+: entry.2) :
    expandCalls ⟨front ++ (key, template) :: back⟩ limit text = expandCalls ⟨front ++ back⟩ limit text := by
  symm
  apply expand_calls_congr
  · intro name source found other valid tagged
    rw [Table.get_of_other_entry]
    intro same
    exact (idle other valid same).2 _ (Table.mem_entries_of_get found) tagged
  · intro name valid tagged
    rw [Table.get_of_other_entry]
    intro same
    exact (idle name valid same).1 tagged

end Entries

/-- Definitions that are not used do nothing: an additional template changes neither the result nor the
fault of an expansion when no opening tag of its name stands in the text or in another template, or when
its key is no reference to anything a call can be named; and tables of values give the same result or
fault when they agree on the references that stand in the text. -/
theorem unused_definitions_change_nothing :
    (∀ (front back : List (Text × Text)) (name template text : Text) (limit : Nat),
      ¬ openingTag name <:+: text → (∀ entry ∈ front ++ back, ¬ openingTag name <:+: entry.2) →
        expandCalls ⟨front ++ (Reference.written name, template) :: back⟩ limit text =
          expandCalls ⟨front ++ back⟩ limit text) ∧
    (∀ (front back : List (Text × Text)) (key template text : Text) (limit : Nat),
      (∀ name, IsName name → key ≠ Reference.written name) →
        expandCalls ⟨front ++ (key, template) :: back⟩ limit text =
          expandCalls ⟨front ++ back⟩ limit text) ∧
    ∀ (bindings others : Table) (unbound : Unbound) (text : Text),
      (∀ name, IsWord name → Reference.written name <:+: text →
        bindings.get? (Reference.written name) = others.get? (Reference.written name)) →
        replaceReferences bindings unbound text = replaceReferences others unbound text := by
  refine ⟨?_, ?_, ?_⟩
  · intro front back name template text limit absent absentInside
    apply expand_calls_of_idle_entry
    intro other valid same
    rw [Reference.written_injective same]
    exact ⟨absent, absentInside⟩
  · intro front back key template text limit unnamed
    apply expand_calls_of_idle_entry
    intro name valid same
    exact absurd same.symm (unnamed name valid)
  · intro bindings others unbound text same
    exact replace_references_congr unbound same

/-- Only the closing tag of the additional name stands in the text, the additional key lacks its dollar
signs, and the additional value is for a name that is not between dollar signs. -/
theorem unused_definitions_change_nothing_of_other_names :
    (¬ openingTag ['c'] <:+: "<a>y</c></a>".toList ∧
      (∀ entry ∈ [("$a$".toList, "<b>x</b>\x7b\x7d!".toList), ("$b$".toList, "[\x7b\x7d]".toList)],
        ¬ openingTag ['c'] <:+: entry.2) ∧
      expandCalls ⟨[("$a$".toList, "<b>x</b>\x7b\x7d!".toList), ("$c$".toList, "<a>\x7b\x7d".toList),
        ("$b$".toList, "[\x7b\x7d]".toList)]⟩ 50 "<a>y</c></a>".toList = .ok "[x]y</c>!".toList) ∧
    ((∀ name, IsName name → ['a'] ≠ Reference.written name) ∧
      expandCalls ⟨[(['a'], "\x7b\x7d".toList)]⟩ 50 "<a>y".toList = .ok "<a>y".toList) ∧
    (∀ name, IsWord name → Reference.written name <:+: "$x$ $y$ z".toList →
      Table.get? ⟨[("$x$".toList, ['1']), ("$z$".toList, ['2'])]⟩ (Reference.written name) =
        Table.get? ⟨[("$x$".toList, ['1'])]⟩ (Reference.written name)) ∧
    replaceReferences ⟨[("$x$".toList, ['1']), ("$z$".toList, ['2'])]⟩ .refuse "$x$ $y$ z".toList =
      .error (.unboundReference "$y$".toList 2) := by
  obtain ⟨unmentioned, unnamed, unreferred⟩ := unused_definitions_change_nothing
  have absent : ¬ openingTag ['c'] <:+: "<a>y</c></a>".toList := by decide
  have absentInside : ∀ entry ∈
      [("$a$".toList, "<b>x</b>\x7b\x7d!".toList), ("$b$".toList, "[\x7b\x7d]".toList)],
      ¬ openingTag ['c'] <:+: entry.2 := by decide
  have noName : ∀ name, IsName name → ['a'] ≠ Reference.written name := by
    intro name _ same
    cases same
  have same : ∀ name, IsWord name → Reference.written name <:+: "$x$ $y$ z".toList →
      Table.get? ⟨[("$x$".toList, ['1']), ("$z$".toList, ['2'])]⟩ (Reference.written name) =
        Table.get? ⟨[("$x$".toList, ['1'])]⟩ (Reference.written name) := by
    intro name _ found
    apply Table.get_of_other_entry [("$x$".toList, ['1'])] []
    intro other
    rw [other] at found
    exact absurd found (by decide)
  refine ⟨⟨absent, absentInside, ?_⟩, ⟨noName, ?_⟩, same, ?_⟩
  · have without : expandCalls ⟨[("$a$".toList, "<b>x</b>\x7b\x7d!".toList),
        ("$b$".toList, "[\x7b\x7d]".toList)]⟩ 50 "<a>y</c></a>".toList = .ok "[x]y</c>!".toList :=
      Outcome.ok_of_to_option (by decide +kernel)
    rw [← without]
    exact unmentioned [("$a$".toList, "<b>x</b>\x7b\x7d!".toList)]
      [("$b$".toList, "[\x7b\x7d]".toList)] ['c'] _ _ 50 absent absentInside
  · have without : expandCalls ⟨[]⟩ 50 "<a>y".toList = .ok "<a>y".toList :=
      Outcome.ok_of_to_option (by decide +kernel)
    rw [← without]
    exact unnamed [] [] ['a'] _ _ 50 noName
  · have without : replaceReferences ⟨[("$x$".toList, ['1'])]⟩ .refuse "$x$ $y$ z".toList =
        .error (.unboundReference "$y$".toList 2) := by decide +kernel
    rw [← without]
    exact unreferred _ _ _ _ same

end PostMarkup
