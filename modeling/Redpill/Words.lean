/-
Lists cut into words by separators, and the search for a part of a list that is
printed as words.  A part without a separator lies inside one word; a part with
one separator joins the end of a word to the beginning of the next.
-/
import Mathlib

namespace Words

variable {α : Type}

/-- The nonempty pieces between separators. -/
def split (sep : α → Bool) (text : List α) : List (List α) :=
  (text.splitOnP sep).filter fun word => !word.isEmpty

/-- Words with one separator between any two. -/
def join (space : α) : List (List α) → List α
  | [] => []
  | [word] => word
  | word :: next :: rest => word ++ space :: join space (next :: rest)

/-- Whether the first part stands somewhere in the second. -/
def contains [DecidableEq α] (text part : List α) : Bool :=
  decide (part <:+: text)

theorem contains_iff [DecidableEq α] {text part : List α} :
    contains text part = true ↔ part <:+: text :=
  decide_eq_true_iff

theorem split_cons_of_sep {sep : α → Bool} {space : α}
    (hspace : sep space = true) (text : List α) :
    split sep (space :: text) = split sep text := by
  have hsplit := List.splitOnP_append_cons (p := sep) [] text hspace
  rw [List.nil_append, List.splitOnP_nil] at hsplit
  rw [split, hsplit]
  rfl

theorem split_word {sep : α → Bool} {word : List α} (hne : word ≠ [])
    (hword : ∀ c ∈ word, sep c = false) : split sep word = [word] := by
  rw [split, List.splitOnP_eq_singleton hword]
  simp [hne]

/-- Printed words are read back. -/
theorem split_join {sep : α → Bool} {space : α} (hspace : sep space = true)
    {words : List (List α)}
    (hwords : ∀ word ∈ words, word ≠ [] ∧ ∀ c ∈ word, sep c = false) :
    split sep (join space words) = words := by
  induction words using join.induct with
  | case1 => simp [split, join, List.splitOnP_nil]
  | case2 word =>
      obtain ⟨hne, hword⟩ := hwords word List.mem_cons_self
      exact split_word hne hword
  | case3 word next rest ih =>
      obtain ⟨hhead, htail⟩ := List.forall_mem_cons.mp hwords
      have hrest := ih htail
      rw [split] at hrest
      rw [join, split,
        List.splitOnP_append_cons_of_forall_mem hhead.2 space hspace,
        List.filter_cons_of_pos (by simp [hhead.1]), hrest]

/-- A part without the separator lies on one side of it. -/
theorem infix_append_cons {part first second : List α} {space : α}
    (hpart : space ∉ part) :
    part <:+: first ++ space :: second ↔
      part <:+: first ∨ part <:+: second := by
  constructor
  · rintro ⟨before, after, heq⟩
    rcases List.append_eq_append_iff.mp heq with ⟨rest, hfirst, _⟩ |
      ⟨rest, hbefore, hsecond⟩
    · exact Or.inl ⟨before, rest, hfirst.symm⟩
    · cases rest with
      | nil =>
          rw [List.append_nil] at hbefore
          exact Or.inl ⟨before, [], by rw [List.append_nil, hbefore]⟩
      | cons c rest =>
          obtain ⟨rfl, rfl⟩ := List.cons.inj hsecond
          -- the separator cannot lie inside the part, so the part comes later
          rcases List.append_eq_append_iff.mp hbefore with ⟨middle, _, hmiddle⟩ |
            ⟨middle, _, hmiddle⟩
          · exact absurd (by rw [hmiddle]; simp) hpart
          · cases middle with
            | nil =>
                rw [List.nil_append] at hmiddle
                exact absurd (by rw [← hmiddle]; simp) hpart
            | cons c middle =>
                obtain ⟨_, rfl⟩ := List.cons.inj hmiddle
                exact Or.inr ⟨middle, after, rfl⟩
  · rintro (hfirst | hsecond)
    · exact hfirst.trans (List.prefix_append first _).isInfix
    · exact hsecond.trans ((List.suffix_cons space second).trans
        (List.suffix_append first _)).isInfix

/-- A part without the separator lies inside one of the words. -/
theorem infix_join {part : List α} {space : α} (hne : part ≠ [])
    (hpart : space ∉ part) (words : List (List α)) :
    part <:+: join space words ↔ ∃ word ∈ words, part <:+: word := by
  induction words using join.induct with
  | case1 => simp [join, hne]
  | case2 word => simp [join]
  | case3 word next rest ih =>
      rw [join, infix_append_cons hpart, ih]
      simp only [List.mem_cons, or_and_right, exists_or, exists_eq_left]

theorem prefix_append_cons {part first second : List α} {space : α}
    (hpart : space ∉ part) :
    part <+: first ++ space :: second ↔ part <+: first := by
  constructor
  · rintro ⟨after, heq⟩
    rcases List.append_eq_append_iff.mp heq with ⟨rest, hfirst, _⟩ |
      ⟨rest, hpart', hsecond⟩
    · exact ⟨rest, hfirst.symm⟩
    · cases rest with
      | nil => exact ⟨[], by simpa using hpart'⟩
      | cons c rest =>
          obtain ⟨rfl, _⟩ := List.cons.inj hsecond
          exact absurd (by rw [hpart']; simp) hpart
  · intro hfirst
    exact hfirst.trans (List.prefix_append first _)

theorem prefix_join {part : List α} {space : α} (hpart : space ∉ part)
    (word : List α) (rest : List (List α)) :
    part <+: join space (word :: rest) ↔ part <+: word := by
  cases rest with
  | nil => rfl
  | cons next rest => exact prefix_append_cons hpart

/-- Two parts that meet at a separator meet at the first one or come later. -/
theorem infix_pair_append_cons {left right first second : List α} {space : α}
    (hfirst : space ∉ first) (hleft : space ∉ left) :
    left ++ space :: right <:+: first ++ space :: second ↔
      (left <:+ first ∧ right <+: second) ∨
        left ++ space :: right <:+: second := by
  constructor
  · rintro ⟨before, after, heq⟩
    have hmeet : (before ++ left) ++ space :: (right ++ after) =
        first ++ space :: second := by
      simpa using heq
    rcases List.append_eq_append_iff.mp hmeet with ⟨rest, hbefore, hsecond⟩ |
      ⟨rest, hbefore, hsecond⟩
    · cases rest with
      | nil =>
          obtain ⟨_, rfl⟩ := List.cons.inj hsecond
          rw [List.append_nil] at hbefore
          exact Or.inl ⟨⟨before, hbefore.symm⟩, ⟨after, rfl⟩⟩
      | cons c rest =>
          obtain ⟨rfl, _⟩ := List.cons.inj hsecond
          exact absurd (by rw [hbefore]; simp) hfirst
    · cases rest with
      | nil =>
          obtain ⟨_, rfl⟩ := List.cons.inj hsecond
          rw [List.append_nil] at hbefore
          exact Or.inl ⟨⟨before, hbefore⟩, ⟨after, rfl⟩⟩
      | cons c rest =>
          obtain ⟨rfl, rfl⟩ := List.cons.inj hsecond
          rcases List.append_eq_append_iff.mp hbefore with ⟨middle, _, hmiddle⟩ |
            ⟨middle, _, hmiddle⟩
          · exact absurd (by rw [hmiddle]; simp) hleft
          · cases middle with
            | nil =>
                rw [List.nil_append] at hmiddle
                exact absurd (by rw [← hmiddle]; simp) hleft
            | cons c middle =>
                obtain ⟨_, rfl⟩ := List.cons.inj hmiddle
                exact Or.inr ⟨middle, after, by simp⟩
  · rintro (⟨⟨before, rfl⟩, ⟨after, rfl⟩⟩ | hsecond)
    · exact ⟨before, after, by simp⟩
    · exact hsecond.trans ((List.suffix_cons space second).trans
        (List.suffix_append first _)).isInfix

/-- Some word ends with `left` and the next one begins with `right`. -/
def Adjacent (left right : List α) : List (List α) → Prop
  | word :: next :: rest =>
      (left <:+ word ∧ right <+: next) ∨ Adjacent left right (next :: rest)
  | _ => False

instance Adjacent.decidable [DecidableEq α] (left right : List α) :
    (words : List (List α)) → Decidable (Adjacent left right words)
  | [] => .isFalse id
  | [_] => .isFalse id
  | word :: next :: rest =>
      have := Adjacent.decidable left right (next :: rest)
      inferInstanceAs (Decidable ((left <:+ word ∧ right <+: next) ∨
        Adjacent left right (next :: rest)))

/-- A part with one separator in it joins two words. -/
theorem infix_pair_join {left right : List α} {space : α}
    (hleft : space ∉ left) (hright : space ∉ right) {words : List (List α)}
    (hwords : ∀ word ∈ words, space ∉ word) :
    left ++ space :: right <:+: join space words ↔
      Adjacent left right words := by
  induction words using join.induct with
  | case1 => simp [join, Adjacent]
  | case2 word =>
      have hword := hwords word List.mem_cons_self
      simp only [join, Adjacent, iff_false]
      intro hinside
      exact hword (hinside.subset (by simp))
  | case3 word next rest ih =>
      obtain ⟨hhead, htail⟩ := List.forall_mem_cons.mp hwords
      rw [join, infix_pair_append_cons hhead hleft, ih htail,
        prefix_join hright, Adjacent]

theorem adjacent_append_cons {left right word next : List α}
    (hleft : left <:+ word) (hright : right <+: next)
    (first second : List (List α)) :
    Adjacent left right (first ++ word :: next :: second) := by
  induction first with
  | nil => exact Or.inl ⟨hleft, hright⟩
  | cons head rest ih =>
      cases rest with
      | nil => exact Or.inr ih
      | cons other rest => exact Or.inr ih

end Words
