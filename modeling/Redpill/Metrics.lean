/-
The session metrics of the server (`metrics.rs`): the handshake counters, the
gauge of active sessions and the gauge of sessions per user.  The counters of
packets and bytes are left out.
-/
import Mathlib

namespace Redpill

/-- Add to the value of a label, which starts at zero. -/
def addToLabel (label : String) (delta : Int) :
    List (String × Int) → List (String × Int)
  | [] => [(label, delta)]
  | entry :: rest =>
      if entry.1 = label then (entry.1, entry.2 + delta) :: rest
      else entry :: addToLabel label delta rest

theorem mem_addToLabel_fst {label other : String} {delta : Int}
    {entries : List (String × Int)} :
    other ∈ (addToLabel label delta entries).map Prod.fst ↔
      other = label ∨ other ∈ entries.map Prod.fst := by
  induction entries with
  | nil => simp [addToLabel]
  | cons entry rest ih =>
      by_cases hlabel : entry.1 = label
      · simp [addToLabel, hlabel]
      · simp only [addToLabel, hlabel, if_false, List.map_cons, List.mem_cons,
          ih]
        exact or_left_comm

theorem addToLabel_nodup (label : String) (delta : Int)
    {entries : List (String × Int)} (h : (entries.map Prod.fst).Nodup) :
    ((addToLabel label delta entries).map Prod.fst).Nodup := by
  induction entries with
  | nil => simp [addToLabel]
  | cons entry rest ih =>
      rw [List.map_cons, List.nodup_cons] at h
      by_cases hlabel : entry.1 = label
      · simp only [addToLabel, hlabel, if_true, List.map_cons]
        exact List.nodup_cons.mpr (hlabel ▸ h)
      · simp only [addToLabel, hlabel, if_false, List.map_cons,
          List.nodup_cons]
        refine ⟨?_, ih h.2⟩
        intro hmem
        rcases mem_addToLabel_fst.mp hmem with heq | hrest
        · exact hlabel heq
        · exact h.1 hrest

/-- A gauge with one value for each label it has seen. -/
structure IntGaugeVec where
  entries : List (String × Int)
  distinct : (entries.map Prod.fst).Nodup
deriving Repr, DecidableEq

namespace IntGaugeVec

def new : IntGaugeVec := ⟨[], List.nodup_nil⟩

def add (gauge : IntGaugeVec) (label : String) (delta : Int) : IntGaugeVec :=
  ⟨addToLabel label delta gauge.entries, addToLabel_nodup label delta gauge.distinct⟩

def inc (gauge : IntGaugeVec) (label : String) : IntGaugeVec := gauge.add label 1

def dec (gauge : IntGaugeVec) (label : String) : IntGaugeVec :=
  gauge.add label (-1)

/-- The value of a label, zero for one never seen. -/
def value (gauge : IntGaugeVec) (label : String) : Int :=
  (gauge.entries.lookup label).getD 0

/-- The sum of the values of all labels. -/
def total (gauge : IntGaugeVec) : Int :=
  (gauge.entries.map Prod.snd).sum

theorem sum_addToLabel (label : String) (delta : Int)
    (entries : List (String × Int)) :
    ((addToLabel label delta entries).map Prod.snd).sum =
      (entries.map Prod.snd).sum + delta := by
  induction entries with
  | nil => simp [addToLabel]
  | cons entry rest ih =>
      by_cases hlabel : entry.1 = label
      · simp only [addToLabel, hlabel, if_true, List.map_cons, List.sum_cons]
        omega
      · simp only [addToLabel, hlabel, if_false, List.map_cons, List.sum_cons,
          ih]
        omega

theorem total_add (gauge : IntGaugeVec) (label : String) (delta : Int) :
    (gauge.add label delta).total = gauge.total + delta :=
  sum_addToLabel label delta gauge.entries

theorem lookup_addToLabel (label other : String) (delta : Int)
    (entries : List (String × Int)) :
    ((addToLabel label delta entries).lookup other).getD 0 =
      (entries.lookup other).getD 0 + if other = label then delta else 0 := by
  induction entries with
  | nil =>
      by_cases hother : other = label
      · simp [addToLabel, List.lookup, hother]
      · have hbeq : (other == label) = false := by simpa using hother
        simp [addToLabel, List.lookup, hother, hbeq]
  | cons entry rest ih =>
      obtain ⟨key, value⟩ := entry
      by_cases hlabel : key = label
      · subst hlabel
        by_cases hother : other = key
        · simp [addToLabel, List.lookup, hother]
        · have hbeq : (other == key) = false := by simpa using hother
          simp [addToLabel, List.lookup, hother, hbeq]
      · by_cases hother : other = key
        · subst hother
          simp [addToLabel, List.lookup, hlabel]
        · have hbeq : (other == key) = false := by simpa using hother
          simpa [addToLabel, List.lookup, hlabel, hbeq] using ih

theorem value_add (gauge : IntGaugeVec) (label other : String) (delta : Int) :
    (gauge.add label delta).value other =
      gauge.value other + if other = label then delta else 0 :=
  lookup_addToLabel label other delta gauge.entries

end IntGaugeVec

structure Metrics where
  handshakesTotal : Nat
  handshakesFailed : Nat
  activeSessions : Int
  sessionsByUser : IntGaugeVec
deriving Repr, DecidableEq

def Metrics.new : Metrics := ⟨0, 0, 0, IntGaugeVec.new⟩

end Redpill
