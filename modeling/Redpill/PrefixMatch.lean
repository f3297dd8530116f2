/-
Tables that map prefixes to values and answer a lookup with the entry of the
longest matching prefix, the one with the lowest metric first.  An entry is
known by its prefix and its metric.  The letters of the prefixes and the values
are arbitrary.
-/
import Mathlib

namespace PrefixMatch

universe u v

variable {α : Type u} {γ : Type v}

structure Entry (α : Type u) (γ : Type v) where
  dest : List α
  metric : Nat
  hop : γ
deriving DecidableEq

namespace Entry

/-- What two entries of a table cannot share. -/
def key (entry : Entry α γ) : List α × Nat := (entry.dest, entry.metric)

/-- The first entry is chosen over the second. -/
def Before (first second : Entry α γ) : Prop :=
  second.dest.length < first.dest.length ∨
    second.dest.length = first.dest.length ∧ first.metric < second.metric

instance (first second : Entry α γ) : Decidable (first.Before second) :=
  inferInstanceAs (Decidable (second.dest.length < first.dest.length ∨
    second.dest.length = first.dest.length ∧ first.metric < second.metric))

theorem Before.asymm {first second : Entry α γ} (h : first.Before second) :
    ¬ second.Before first := by
  simp only [Before] at h ⊢
  omega

theorem Before.trans {first second third : Entry α γ}
    (h : first.Before second) (h' : second.Before third) :
    first.Before third := by
  simp only [Before] at h h' ⊢
  omega

/-- Of two entries that match the same word, one is chosen over the other,
unless they have the same key. -/
theorem before_or_before {first second : Entry α γ} {word : List α}
    (hfirst : first.dest <+: word) (hsecond : second.dest <+: word)
    (hkey : first.key ≠ second.key) :
    first.Before second ∨ second.Before first := by
  by_cases hlength : first.dest.length = second.dest.length
  · have hdest : first.dest = second.dest :=
      (List.prefix_of_prefix_length_le hfirst hsecond
        (Nat.le_of_eq hlength)).eq_of_length hlength
    have hmetric : first.metric ≠ second.metric := by
      intro heq
      exact hkey (Prod.ext hdest heq)
    simp only [Before]
    omega
  · simp only [Before]
    omega

/-- Longer prefixes first, then lower metrics. -/
def rank (entry : Entry α γ) : ℕ ×ₗ ℕᵒᵈ :=
  toLex (entry.dest.length, OrderDual.toDual entry.metric)

theorem rank_lt_rank_iff {first second : Entry α γ} :
    second.rank < first.rank ↔ first.Before second := by
  rw [rank, rank, Prod.Lex.toLex_lt_toLex]
  rfl

end Entry

/-- A table never holds two entries with one key. -/
structure Table (α : Type u) (γ : Type v) where
  entries : List (Entry α γ)
  keys : (entries.map Entry.key).Nodup

namespace Table

theorem eq_of_key {table : Table α γ} {entry other : Entry α γ}
    (hentry : entry ∈ table.entries) (hother : other ∈ table.entries)
    (hkey : entry.key = other.key) : entry = other :=
  List.inj_on_of_nodup_map table.keys hentry hother hkey

/-- Among entries of which one is always chosen over the other, the best is
the one that is chosen over all. -/
theorem argmax_filter_eq_some_iff {entries : List (Entry α γ)}
    {accepts : Entry α γ → Bool}
    (hstrict : ∀ first ∈ entries, ∀ second ∈ entries, accepts first = true →
      accepts second = true → first ≠ second →
      first.Before second ∨ second.Before first)
    {entry : Entry α γ} :
    (entries.filter accepts).argmax Entry.rank = some entry ↔
      entry ∈ entries ∧ accepts entry = true ∧ ∀ other ∈ entries,
        accepts other = true → other ≠ entry → entry.Before other := by
  have hchosen : ∀ {chosen : Entry α γ},
      (entries.filter accepts).argmax Entry.rank = some chosen →
      ∀ other ∈ entries, accepts other = true → other ≠ chosen →
        chosen.Before other := by
    intro chosen hargmax other hother haccepts hne
    have hin := List.mem_filter.mp (List.argmax_mem hargmax)
    rcases hstrict chosen hin.1 other hother hin.2 haccepts (Ne.symm hne) with
      hbefore | hbefore
    · exact hbefore
    · exact absurd (Entry.rank_lt_rank_iff.mpr hbefore)
        (List.not_lt_of_mem_argmax
          (List.mem_filter.mpr ⟨hother, haccepts⟩) hargmax)
  constructor
  · intro hargmax
    have hin := List.mem_filter.mp (List.argmax_mem hargmax)
    exact ⟨hin.1, hin.2, hchosen hargmax⟩
  · rintro ⟨hin, haccepts, hall⟩
    cases hargmax : (entries.filter accepts).argmax Entry.rank with
    | none =>
        have hfiltered := List.mem_filter.mpr ⟨hin, haccepts⟩
        rw [List.argmax_eq_none.mp hargmax] at hfiltered
        cases hfiltered
    | some chosen =>
        by_cases heq : chosen = entry
        · rw [heq]
        · have hbest := List.mem_filter.mp (List.argmax_mem hargmax)
          have hone := hall chosen hbest.1 hbest.2 heq
          have htwo := hchosen hargmax entry hin haccepts (Ne.symm heq)
          exact absurd htwo hone.asymm

variable [DecidableEq α]

/-- The entry that a word is sent by. -/
def lookup (table : Table α γ) (word : List α) : Option (Entry α γ) :=
  (table.entries.filter fun entry => decide (entry.dest <+: word)).argmax
    Entry.rank

/-- A lookup gives the matching entry that is chosen over every other one. -/
theorem lookup_eq_some_iff {table : Table α γ} {word : List α}
    {entry : Entry α γ} : table.lookup word = some entry ↔
      entry ∈ table.entries ∧ entry.dest <+: word ∧
        ∀ other ∈ table.entries, other.dest <+: word → other ≠ entry →
          entry.Before other := by
  rw [lookup, argmax_filter_eq_some_iff]
  · simp only [decide_eq_true_iff]
  · intro first hfirst second hsecond hmatch hmatch' hne
    refine Entry.before_or_before (of_decide_eq_true hmatch)
      (of_decide_eq_true hmatch') ?_
    intro hkey
    exact hne (eq_of_key hfirst hsecond hkey)

/-- A lookup depends on what is in the table, not on the order. -/
theorem lookup_congr {table other : Table α γ}
    (hsame : ∀ entry, entry ∈ table.entries ↔ entry ∈ other.entries)
    (word : List α) : table.lookup word = other.lookup word := by
  apply Option.ext
  intro entry
  rw [lookup_eq_some_iff, lookup_eq_some_iff, hsame]
  simp only [hsame]

/-- A new entry; an entry with the same key is not replaced. -/
def add (table : Table α γ) (entry : Entry α γ) : Option (Table α γ) :=
  if hkey : entry.key ∈ table.entries.map Entry.key then none
  else some ⟨entry :: table.entries, List.nodup_cons.mpr ⟨hkey, table.keys⟩⟩

theorem add_of_new {table : Table α γ} {entry : Entry α γ}
    (hnew : ∀ other ∈ table.entries, other.key ≠ entry.key) :
    ∃ next, table.add entry = some next ∧
      next.entries = entry :: table.entries := by
  have hkey : entry.key ∉ table.entries.map Entry.key := by
    simpa [List.mem_map] using hnew
  exact ⟨_, dif_neg hkey, rfl⟩

theorem add_of_old {table : Table α γ} {entry other : Entry α γ}
    (hother : other ∈ table.entries) (hkey : other.key = entry.key) :
    table.add entry = none :=
  dif_pos (List.mem_map.mpr ⟨other, hother, hkey⟩)

/-- What an addition that succeeds has found and done. -/
theorem of_add_eq_some {table next : Table α γ} {entry : Entry α γ}
    (hadd : table.add entry = some next) :
    (∀ other ∈ table.entries, other.key ≠ entry.key) ∧
      next.entries = entry :: table.entries := by
  have hnew : ∀ other ∈ table.entries, other.key ≠ entry.key := by
    intro other hother hkey
    rw [add_of_old hother hkey] at hadd
    cases hadd
  obtain ⟨next', hadd', hentries⟩ := add_of_new hnew
  rw [hadd] at hadd'
  rw [Option.some.inj hadd']
  exact ⟨hnew, hentries⟩

/-- The entry with the lowest metric for this prefix, among those whose value
is accepted. -/
def find (table : Table α γ) (dest : List α) (accepts : γ → Bool) :
    Option (Entry α γ) :=
  (table.entries.filter fun entry =>
    decide (entry.dest = dest) && accepts entry.hop).argmax Entry.rank

theorem find_eq_some_iff {table : Table α γ} {dest : List α}
    {accepts : γ → Bool} {entry : Entry α γ} :
    table.find dest accepts = some entry ↔
      entry ∈ table.entries ∧ (entry.dest = dest ∧ accepts entry.hop = true) ∧
        ∀ other ∈ table.entries, other.dest = dest ∧ accepts other.hop = true →
          other ≠ entry → entry.Before other := by
  rw [find, argmax_filter_eq_some_iff]
  · simp only [Bool.and_eq_true, decide_eq_true_iff]
  · intro first hfirst second hsecond hmatch hmatch' hne
    simp only [Bool.and_eq_true, decide_eq_true_iff] at hmatch hmatch'
    have hprefix : first.dest <+: dest := by rw [hmatch.1]
    have hprefix' : second.dest <+: dest := by rw [hmatch'.1]
    refine Entry.before_or_before hprefix hprefix' ?_
    intro hkey
    exact hne (eq_of_key hfirst hsecond hkey)

/-- An entry with metric zero is the first for its prefix. -/
theorem find_of_metric_zero {table : Table α γ} {entry : Entry α γ}
    (hentry : entry ∈ table.entries) (hmetric : entry.metric = 0)
    {accepts : γ → Bool} (haccepts : accepts entry.hop = true) :
    table.find entry.dest accepts = some entry := by
  rw [find_eq_some_iff]
  refine ⟨hentry, ⟨rfl, haccepts⟩, ?_⟩
  rintro other hother ⟨hdest, _⟩ hne
  have hlater : other.metric ≠ 0 := by
    intro hzero
    exact hne (eq_of_key hother hentry
      (Prod.ext hdest (hzero.trans hmetric.symm)))
  refine Or.inr ⟨by rw [hdest], ?_⟩
  omega

end Table

section Overlay

variable [DecidableEq α] {own : List (Entry α γ)} {bare full : Table α γ}

/-- A table that has entries of its own beside those of another one. -/
structure Overlay (own : List (Entry α γ)) (bare full : Table α γ) : Prop where
  mem : ∀ entry, entry ∈ full.entries ↔ entry ∈ own ∨ entry ∈ bare.entries
  apart : ∀ entry ∈ own, ∀ other ∈ bare.entries, other.key ≠ entry.key

namespace Overlay

omit [DecidableEq α] in
theorem refl (table : Table α γ) : Overlay [] table table where
  mem := by simp
  apart := by simp

omit [DecidableEq α] in
theorem congr (h : Overlay own bare full) {own' : List (Entry α γ)}
    (hsame : ∀ entry, entry ∈ own ↔ entry ∈ own') :
    Overlay own' bare full where
  mem := by
    intro entry
    rw [h.mem, hsame]
  apart := by
    intro entry hentry
    exact h.apart entry ((hsame entry).mpr hentry)

theorem add (h : Overlay own bare full) {entry : Entry α γ}
    {next : Table α γ} (hadd : full.add entry = some next) :
    Overlay (entry :: own) bare next := by
  obtain ⟨hnew, hentries⟩ := Table.of_add_eq_some hadd
  constructor
  · intro other
    rw [hentries, List.mem_cons, List.mem_cons, h.mem, or_assoc]
  · intro other hother rest hrest
    rcases List.mem_cons.mp hother with rfl | hown
    · exact hnew rest ((h.mem rest).mpr (Or.inr hrest))
    · exact h.apart other hown rest hrest

/-- A word goes by an entry of the overlay that is chosen over all others. -/
theorem lookup_own (h : Overlay own bare full) {word : List α}
    {entry : Entry α γ} (hown : entry ∈ own) (hmatch : entry.dest <+: word)
    (hothers : ∀ other ∈ own, other.dest <+: word → other ≠ entry →
      entry.Before other)
    (hbare : ∀ other, bare.lookup word = some other → entry.Before other) :
    full.lookup word = some entry := by
  rw [Table.lookup_eq_some_iff]
  refine ⟨(h.mem entry).mpr (Or.inl hown), hmatch, ?_⟩
  intro other hother hmatch' hne
  rcases (h.mem other).mp hother with hown' | hin
  · exact hothers other hown' hmatch' hne
  · cases hlookup : bare.lookup word with
    | none =>
        have hfiltered : other ∈ bare.entries.filter
            (fun entry => decide (entry.dest <+: word)) :=
          List.mem_filter.mpr ⟨hin, decide_eq_true hmatch'⟩
        rw [List.argmax_eq_none.mp hlookup] at hfiltered
        cases hfiltered
    | some chosen =>
        have hfirst := hbare chosen hlookup
        by_cases heq : other = chosen
        · rw [heq]
          exact hfirst
        · exact hfirst.trans
            ((Table.lookup_eq_some_iff.mp hlookup).2.2 other hin hmatch' heq)

/-- A word keeps its entry if that is chosen over those of the overlay. -/
theorem lookup_bare (h : Overlay own bare full) {word : List α}
    {entry : Entry α γ} (hlookup : bare.lookup word = some entry)
    (hown : ∀ other ∈ own, other.dest <+: word → entry.Before other) :
    full.lookup word = some entry := by
  obtain ⟨hin, hmatch, hall⟩ := Table.lookup_eq_some_iff.mp hlookup
  rw [Table.lookup_eq_some_iff]
  refine ⟨(h.mem entry).mpr (Or.inr hin), hmatch, ?_⟩
  intro other hother hmatch' hne
  rcases (h.mem other).mp hother with hown' | hbare
  · exact hown other hown' hmatch'
  · exact hall other hbare hmatch' hne

/-- Without entries of its own, a table answers as the other one. -/
theorem lookup_nil (h : Overlay [] bare full) (word : List α) :
    full.lookup word = bare.lookup word :=
  Table.lookup_congr (fun entry => by simpa using h.mem entry) word

end Overlay

end Overlay

/-- A command that changes a table. -/
inductive Change (α : Type u) (γ : Type v) where
  | add (entry : Entry α γ)
  | remove (dest : List α) (accepts : γ → Bool)

variable [DecidableEq α] [DecidableEq γ]

namespace Table

/-- Without one entry. -/
def erase (table : Table α γ) (entry : Entry α γ) : Table α γ :=
  ⟨table.entries.erase entry,
    table.keys.sublist (List.erase_sublist.map Entry.key)⟩

/-- Remove the first entry for this prefix whose value is accepted. -/
def remove (table : Table α γ) (dest : List α) (accepts : γ → Bool) :
    Option (Table α γ) :=
  (table.find dest accepts).map table.erase

theorem mem_erase {table : Table α γ} {entry other : Entry α γ} :
    other ∈ (table.erase entry).entries ↔
      other ≠ entry ∧ other ∈ table.entries :=
  (List.Nodup.of_map Entry.key table.keys).mem_erase_iff

def apply (table : Table α γ) : Change α γ → Option (Table α γ)
  | .add entry => table.add entry
  | .remove dest accepts => table.remove dest accepts

/-- Changes one after the other, up to the first that fails. -/
def all (table : Table α γ) (changes : List (Change α γ)) :
    Option (Table α γ) :=
  changes.foldlM apply table

/-- A change that may fail without consequences. -/
def tryApply (table : Table α γ) (change : Change α γ) : Table α γ :=
  (table.apply change).getD table

/-- Changes one after the other, failures ignored. -/
def each (table : Table α γ) (changes : List (Change α γ)) : Table α γ :=
  changes.foldl tryApply table

end Table

/-- The change names none of these entries. -/
def Change.Avoids (own : List (Entry α γ)) : Change α γ → Prop
  | .add entry => ∀ other ∈ own, other.key ≠ entry.key
  | .remove dest _ => ∀ other ∈ own, other.dest ≠ dest

namespace Overlay

variable {own : List (Entry α γ)} {bare full : Table α γ}

/-- The most recent entry of the overlay is removed again. -/
theorem remove {entry : Entry α γ} (h : Overlay (entry :: own) bare full)
    (hfresh : entry ∉ own) {dest : List α} {accepts : γ → Bool}
    (hfind : full.find dest accepts = some entry) :
    Overlay own bare (full.tryApply (.remove dest accepts)) := by
  have herase : full.tryApply (.remove dest accepts) = full.erase entry := by
    simp [Table.tryApply, Table.apply, Table.remove, hfind]
  rw [herase]
  constructor
  · intro other
    rw [Table.mem_erase, h.mem, List.mem_cons]
    constructor
    · rintro ⟨hne, hmem⟩
      tauto
    · intro hmem
      refine ⟨?_, by tauto⟩
      rintro rfl
      rcases hmem with hown | hbare
      · exact hfresh hown
      · exact h.apart other List.mem_cons_self other hbare rfl
  · intro other hother
    exact h.apart other (List.mem_cons_of_mem entry hother)

/-- A change that avoids the entries of its own does the same to both
tables. -/
theorem change (h : Overlay own bare full) {change : Change α γ}
    (havoids : change.Avoids own) :
    Overlay own (bare.tryApply change) (full.tryApply change) := by
  cases change with
  | add entry =>
      by_cases hold : ∃ other ∈ bare.entries, other.key = entry.key
      · obtain ⟨other, hother, hkey⟩ := hold
        have hbare := Table.add_of_old hother hkey
        have hfull := Table.add_of_old ((h.mem other).mpr (Or.inr hother)) hkey
        simpa [Table.tryApply, Table.apply, hbare, hfull] using h
      · have hnew : ∀ other ∈ bare.entries, other.key ≠ entry.key := by
          intro other hother hkey
          exact hold ⟨other, hother, hkey⟩
        obtain ⟨bare', hbare, hentries⟩ := Table.add_of_new hnew
        have hnew' : ∀ other ∈ full.entries, other.key ≠ entry.key := by
          intro other hother
          rcases (h.mem other).mp hother with hown | hother
          · exact havoids other hown
          · exact hnew other hother
        obtain ⟨full', hfull, hentries'⟩ := Table.add_of_new hnew'
        simp only [Table.tryApply, Table.apply, hbare, hfull, Option.getD_some]
        constructor
        · intro other
          rw [hentries, hentries', List.mem_cons, List.mem_cons, h.mem]
          tauto
        · intro other hother rest hrest
          rw [hentries] at hrest
          rcases List.mem_cons.mp hrest with rfl | hrest
          · exact fun hkey => havoids other hother hkey.symm
          · exact h.apart other hother rest hrest
  | remove dest accepts =>
      -- the same entry is found in both tables
      have hsame : full.find dest accepts = bare.find dest accepts := by
        apply Option.ext
        intro entry
        rw [Table.find_eq_some_iff, Table.find_eq_some_iff]
        constructor
        · rintro ⟨hin, hmatch, hall⟩
          refine ⟨?_, hmatch, ?_⟩
          · rcases (h.mem entry).mp hin with hown | hbare
            · exact absurd hmatch.1 (havoids entry hown)
            · exact hbare
          · intro other hother
            exact hall other ((h.mem other).mpr (Or.inr hother))
        · rintro ⟨hin, hmatch, hall⟩
          refine ⟨(h.mem entry).mpr (Or.inr hin), hmatch, ?_⟩
          intro other hother hmatch'
          rcases (h.mem other).mp hother with hown | hbare
          · exact absurd hmatch'.1 (havoids other hown)
          · exact hall other hbare hmatch'
      cases hfind : bare.find dest accepts with
      | none =>
          rw [hfind] at hsame
          simpa [Table.tryApply, Table.apply, Table.remove, hfind, hsame] using h
      | some entry =>
          rw [hfind] at hsame
          obtain ⟨hin, hmatch, _⟩ := Table.find_eq_some_iff.mp hfind
          simp only [Table.tryApply, Table.apply, Table.remove, hfind, hsame,
            Option.map_some, Option.getD_some]
          constructor
          · intro other
            rw [Table.mem_erase, Table.mem_erase, h.mem]
            constructor
            · tauto
            · rintro (hown | hrest)
              · refine ⟨?_, Or.inl hown⟩
                rintro rfl
                exact havoids other hown hmatch.1
              · exact ⟨hrest.1, Or.inr hrest.2⟩
          · intro other hother rest hrest
            exact h.apart other hother rest (Table.mem_erase.mp hrest).2

theorem each (h : Overlay own bare full) {changes : List (Change α γ)}
    (havoids : ∀ change ∈ changes, change.Avoids own) :
    Overlay own (bare.each changes) (full.each changes) := by
  induction changes generalizing bare full with
  | nil => exact h
  | cons first rest ih =>
      rw [List.forall_mem_cons] at havoids
      exact ih (h.change havoids.1) havoids.2

end Overlay

end PrefixMatch
