/-
Packet filters whose last matching rule decides, unless a quick rule matches
before.  A packet that no rule matches passes.  The packets are arbitrary.
-/
import Mathlib

namespace PacketFilter

universe u

variable {P : Type u}

structure Rule (P : Type u) where
  pass : Bool
  quick : Bool
  applies : P → Bool

/-- What has been decided so far, and whether that is the last word. -/
structure Verdict where
  pass : Bool
  final : Bool
deriving DecidableEq

def Verdict.initial : Verdict := ⟨true, false⟩

def consider (packet : P) (verdict : Verdict) (rule : Rule P) : Verdict :=
  if !verdict.final && rule.applies packet then ⟨rule.pass, rule.quick⟩
  else verdict

def evaluate (rules : List (Rule P)) (packet : P) (verdict : Verdict) :
    Verdict :=
  rules.foldl (consider packet) verdict

def passes (rules : List (Rule P)) (packet : P) : Bool :=
  (evaluate rules packet .initial).pass

@[simp] theorem evaluate_nil (packet : P) (verdict : Verdict) :
    evaluate [] packet verdict = verdict :=
  rfl

theorem evaluate_cons (rule : Rule P) (rest : List (Rule P)) (packet : P)
    (verdict : Verdict) : evaluate (rule :: rest) packet verdict =
      evaluate rest packet (consider packet verdict rule) :=
  rfl

theorem evaluate_append (first second : List (Rule P)) (packet : P)
    (verdict : Verdict) : evaluate (first ++ second) packet verdict =
      evaluate second packet (evaluate first packet verdict) :=
  List.foldl_append

/-- After the last word nothing changes. -/
theorem evaluate_of_final (rules : List (Rule P)) (packet : P)
    {verdict : Verdict} (hfinal : verdict.final = true) :
    evaluate rules packet verdict = verdict := by
  induction rules with
  | nil => rfl
  | cons rule rest ih =>
      have hkept : consider packet verdict rule = verdict := by
        simp [consider, hfinal]
      rw [evaluate_cons, hkept, ih]

/-- Rules that do not match change nothing. -/
theorem evaluate_of_no_match {rules : List (Rule P)} {packet : P}
    (hnone : ∀ rule ∈ rules, rule.applies packet = false)
    (verdict : Verdict) : evaluate rules packet verdict = verdict := by
  induction rules with
  | nil => rfl
  | cons rule rest ih =>
      rw [List.forall_mem_cons] at hnone
      have hkept : consider packet verdict rule = verdict := by
        simp [consider, hnone.1]
      rw [evaluate_cons, hkept, ih hnone.2]

/-- Without a quick match the last word is not spoken. -/
theorem evaluate_not_final {rules : List (Rule P)} {packet : P}
    (hquick : ∀ rule ∈ rules, rule.quick = true → rule.applies packet = false)
    {verdict : Verdict} (hfinal : verdict.final = false) :
    (evaluate rules packet verdict).final = false := by
  induction rules generalizing verdict with
  | nil => exact hfinal
  | cons rule rest ih =>
      rw [List.forall_mem_cons] at hquick
      apply ih hquick.2
      rw [consider]
      split
      · rename_i happlies
        simp only [Bool.and_eq_true] at happlies
        cases hrule : rule.quick with
        | false => rfl
        | true =>
            rw [hquick.1 hrule] at happlies
            cases happlies.2
      · exact hfinal

/-- A list of quick rules that all say the same decides for what it matches,
and only for that. -/
theorem evaluate_quick {rules : List (Rule P)} {pass : Bool} {packet : P}
    (hquick : ∀ rule ∈ rules, rule.quick = true ∧ rule.pass = pass)
    {verdict : Verdict} (hfinal : verdict.final = false) :
    evaluate rules packet verdict =
      if rules.any (fun rule => rule.applies packet) then ⟨pass, true⟩
      else verdict := by
  induction rules with
  | nil => rfl
  | cons rule rest ih =>
      rw [List.forall_mem_cons] at hquick
      rw [evaluate_cons]
      cases happlies : rule.applies packet with
      | true =>
          have hnow : consider packet verdict rule = ⟨pass, true⟩ := by
            simp [consider, hfinal, happlies, hquick.1.1, hquick.1.2]
          rw [hnow]
          simpa [happlies] using evaluate_of_final rest packet rfl
      | false =>
          have hkept : consider packet verdict rule = verdict := by
            simp [consider, happlies]
          rw [hkept]
          simpa [happlies] using ih hquick.2

end PacketFilter
