/-
Choosing a transport (`transport/manager.rs`).  The connectors stand in the
order of preference; each gets ten seconds, and the first that connects is
used.  What a connector's attempt does, and how long it takes, is up to the
network.
-/
import Redpill.DaemonStatus

namespace Redpill

/-- What the attempt of a connector comes to, after a number of ms. -/
inductive Attempt where
  | connects (millis : Nat)
  | fails (millis : Nat) (error : String)
  | hangs
deriving Repr, DecidableEq

/-- Milliseconds that a connector gets. -/
def probeTimeout : Nat := 10000

/-- The attempt connects before it is cut off. -/
def Attempt.InTime : Attempt → Prop
  | .connects millis => millis ≤ probeTimeout
  | .fails _ _ => False
  | .hangs => False

instance : DecidablePred Attempt.InTime
  | .connects millis => inferInstanceAs (Decidable (millis ≤ probeTimeout))
  | .fails _ _ => inferInstanceAs (Decidable False)
  | .hangs => inferInstanceAs (Decidable False)

def timedOut (mode : TransportMode) : String :=
  mode.display ++ " connection timed out"

/-- How an attempt under the timeout fails, if it does. -/
def Attempt.error (mode : TransportMode) : Attempt → Option String
  | .connects millis =>
      if millis ≤ probeTimeout then none else some (timedOut mode)
  | .fails millis error =>
      some (if millis ≤ probeTimeout then error else timedOut mode)
  | .hangs => some (timedOut mode)

def Attempt.elapsed : Attempt → Nat
  | .connects millis => min millis probeTimeout
  | .fails millis _ => min millis probeTimeout
  | .hangs => probeTimeout

/-- The loop of `probe_and_connect`, with the last error and the time that has
passed. -/
def probeFrom (attempt : TransportMode → Attempt) :
    List TransportMode → Option String → Nat →
      Except String TransportMode × Nat
  | [], lastError, elapsed =>
      (.error (lastError.getD "No transport connectors configured"), elapsed)
  | mode :: rest, _, elapsed =>
      match (attempt mode).error mode with
      | none => (.ok mode, elapsed + (attempt mode).elapsed)
      | some error =>
          probeFrom attempt rest (some error)
            (elapsed + (attempt mode).elapsed)

def probeAndConnect (connectors : List TransportMode)
    (attempt : TransportMode → Attempt) :
    Except String TransportMode × Nat :=
  probeFrom attempt connectors none 0

/-- The connectors for a configured mode; WebSocket needs a URL. -/
def buildTransportManager (mode : String) (url : Option String) :
    List TransportMode :=
  let webSocket := if url.isSome then [TransportMode.webSocketCdn] else []
  if mode = "quic" then [.quicRaw]
  else if mode = "quic-camouflaged" then [.quicCamouflaged]
  else if mode = "tcp-reality" then [.tcpReality]
  else if mode = "websocket" then webSocket
  else [.quicRaw, .quicCamouflaged, .tcpReality] ++ webSocket

theorem Attempt.error_eq_none_iff {mode : TransportMode} {attempt : Attempt} :
    attempt.error mode = none ↔ attempt.InTime := by
  cases attempt <;> simp [Attempt.error, Attempt.InTime]

theorem Attempt.elapsed_le (attempt : Attempt) :
    attempt.elapsed ≤ probeTimeout := by
  cases attempt with
  | connects millis => exact Nat.min_le_right _ _
  | fails millis error => exact Nat.min_le_right _ _
  | hangs => exact Nat.le_refl _

/-- Time spent on these connectors, none of which connects. -/
def spentOn (attempt : TransportMode → Attempt) (modes : List TransportMode) :
    Nat :=
  (modes.map fun mode => (attempt mode).elapsed).sum

theorem spentOn_le (attempt : TransportMode → Attempt)
    (modes : List TransportMode) :
    spentOn attempt modes ≤ probeTimeout * modes.length := by
  induction modes with
  | nil => exact Nat.zero_le _
  | cons mode rest ih =>
      have hmode := (attempt mode).elapsed_le
      simp only [spentOn, List.map_cons, List.sum_cons, List.length_cons,
        Nat.mul_add] at ih ⊢
      omega

/-- How the loop ends: at the first connector that connects in time, or after
all of them, with the error of the last. -/
theorem probeFrom_cases (attempt : TransportMode → Attempt)
    (connectors : List TransportMode) (lastError : Option String)
    (elapsed : Nat) :
    (∃ before mode after, connectors = before ++ mode :: after ∧
      (∀ other ∈ before, ¬ (attempt other).InTime) ∧
      (attempt mode).InTime ∧
      probeFrom attempt connectors lastError elapsed =
        (.ok mode,
          elapsed + spentOn attempt before + (attempt mode).elapsed)) ∨
    ((∀ other ∈ connectors, ¬ (attempt other).InTime) ∧
      ∃ error, probeFrom attempt connectors lastError elapsed =
        (.error error, elapsed + spentOn attempt connectors) ∧
        (connectors = [] →
          error = lastError.getD "No transport connectors configured") ∧
        ∀ last ∈ connectors.getLast?,
          (attempt last).error last = some error) := by
  induction connectors generalizing lastError elapsed with
  | nil =>
      right
      exact ⟨List.forall_mem_nil _, _, rfl, fun _ => rfl, by simp⟩
  | cons mode rest ih =>
      cases herror : (attempt mode).error mode with
      | none =>
          left
          refine ⟨[], mode, rest, rfl, List.forall_mem_nil _,
            Attempt.error_eq_none_iff.mp herror, ?_⟩
          simp [probeFrom, herror, spentOn]
      | some error =>
          have hmode : ¬ (attempt mode).InTime := by
            intro hintime
            rw [Attempt.error_eq_none_iff.mpr hintime] at herror
            cases herror
          have hstep : probeFrom attempt (mode :: rest) lastError elapsed =
              probeFrom attempt rest (some error)
                (elapsed + (attempt mode).elapsed) := by
            simp [probeFrom, herror]
          have hspent : ∀ modes, elapsed + (attempt mode).elapsed +
              spentOn attempt modes =
                elapsed + spentOn attempt (mode :: modes) := by
            intro modes
            simp only [spentOn, List.map_cons, List.sum_cons]
            omega
          rw [hstep]
          rcases ih (some error) (elapsed + (attempt mode).elapsed) with
            ⟨before, found, after, rfl, hbefore, hfound, hresult⟩ |
            ⟨hnone, last, hresult, hempty, hlast⟩
          · left
            refine ⟨mode :: before, found, after, rfl,
              List.forall_mem_cons.mpr ⟨hmode, hbefore⟩, hfound, ?_⟩
            rw [hresult, hspent]
          · right
            refine ⟨List.forall_mem_cons.mpr ⟨hmode, hnone⟩, last, ?_,
              by simp, ?_⟩
            · rw [hresult, hspent]
            · intro final hfinal
              cases rest with
              | nil =>
                  simp only [List.getLast?_singleton, Option.mem_def,
                    Option.some.injEq] at hfinal
                  rw [← hfinal, herror, hempty rfl]
                  rfl
              | cons next tail =>
                  rw [List.getLast?_cons_cons] at hfinal
                  exact hlast final hfinal

/-- Fastest first. -/
def TransportMode.rank : TransportMode → Nat
  | .quicRaw => 0
  | .quicCamouflaged => 1
  | .tcpReality => 2
  | .webSocketCdn => 3

theorem buildTransportManager_pairwise (mode : String) (url : Option String) :
    (buildTransportManager mode url).Pairwise
      fun first second => first.rank < second.rank := by
  unfold buildTransportManager
  cases url <;> dsimp only <;> split_ifs <;> decide

theorem buildTransportManager_length (mode : String) (url : Option String) :
    (buildTransportManager mode url).length ≤ 4 := by
  unfold buildTransportManager
  cases url <;> dsimp only <;> split_ifs <;> decide

/-- In a list that ascends, what stands before an element is what ranks
below it. -/
theorem mem_before_iff {before after : List TransportMode}
    {mode other : TransportMode}
    (hsorted : (before ++ mode :: after).Pairwise
      fun first second => first.rank < second.rank)
    (hother : other ∈ before ++ mode :: after) :
    other ∈ before ↔ other.rank < mode.rank := by
  obtain ⟨_, hafter, hbefore⟩ := List.pairwise_append.mp hsorted
  constructor
  · intro hmem
    exact hbefore other hmem mode List.mem_cons_self
  · intro hless
    rcases List.mem_append.mp hother with hmem | hmem
    · exact hmem
    · rcases List.mem_cons.mp hmem with rfl | hmem
      · exact absurd hless (Nat.lt_irrefl _)
      · have hgreater := (List.pairwise_cons.mp hafter).1 other hmem
        omega

/-- Whatever the configured mode and however the network answers, a round of
probes is over within forty seconds.  It connects over a transport exactly if
that is the fastest offered one that connects in time, and fails, with the
error of the last connector, exactly if none does. -/
theorem connects_by_preference (mode : String) (url : Option String)
    (attempt : TransportMode → Attempt) :
    let offered := buildTransportManager mode url
    let outcome := probeAndConnect offered attempt
    outcome.2 ≤ 40000 ∧
      (∀ chosen, outcome.1 = .ok chosen ↔
        chosen ∈ offered ∧ (attempt chosen).InTime ∧
          ∀ other ∈ offered, other.rank < chosen.rank →
            ¬ (attempt other).InTime) ∧
      ∀ error, outcome.1 = .error error ↔
        (∀ other ∈ offered, ¬ (attempt other).InTime) ∧
          (offered = [] → error = "No transport connectors configured") ∧
          ∀ last ∈ offered.getLast?,
            (attempt last).error last = some error := by
  intro offered outcome
  have hsorted := buildTransportManager_pairwise mode url
  have hlength := buildTransportManager_length mode url
  rcases probeFrom_cases attempt offered none 0 with
    ⟨before, found, after, hoffered, hbefore, hfound, hresult⟩ |
    ⟨hnone, failure, hresult, hempty, hlast⟩
  · have hfast : ∀ other ∈ offered, other.rank < found.rank →
        ¬ (attempt other).InTime := by
      intro other hother hless
      rw [hoffered] at hother
      exact hbefore other
        ((mem_before_iff (hoffered ▸ hsorted) hother).mpr hless)
    have hmem : found ∈ offered := by simp [hoffered]
    refine ⟨?_, ?_, ?_⟩
    · have hspent := spentOn_le attempt before
      have hlast := (attempt found).elapsed_le
      have hcount : before.length + 1 ≤ 4 := by
        have htotal : offered.length ≤ 4 := hlength
        rw [hoffered, List.length_append, List.length_cons] at htotal
        omega
      have htime : outcome.2 = 0 + spentOn attempt before +
          (attempt found).elapsed := congrArg Prod.snd hresult
      rw [htime]
      simp only [probeTimeout] at hspent hlast
      omega
    · intro chosen
      have hchosen : outcome.1 = .ok found := congrArg Prod.fst hresult
      rw [hchosen, Except.ok.injEq]
      constructor
      · rintro rfl
        exact ⟨hmem, hfound, hfast⟩
      · rintro ⟨hoffer, hintime, hslower⟩
        -- two transports that are both fastest have the same rank
        have hle : ¬ chosen.rank < found.rank := fun hless =>
          hfast chosen hoffer hless hintime
        have hge : ¬ found.rank < chosen.rank := fun hless =>
          hslower found hmem hless hfound
        have hrank : found.rank = chosen.rank := by omega
        cases found <;> cases chosen <;> simp [TransportMode.rank] at hrank ⊢
    · intro error
      have hchosen : outcome.1 = .ok found := congrArg Prod.fst hresult
      rw [hchosen]
      constructor
      · intro heq
        cases heq
      · intro ⟨hnone, _⟩
        exact absurd hfound (hnone found hmem)
  · have hfailed : outcome.1 = .error failure := congrArg Prod.fst hresult
    refine ⟨?_, ?_, ?_⟩
    · have hspent := spentOn_le attempt offered
      have htotal : offered.length ≤ 4 := hlength
      have htime : outcome.2 = 0 + spentOn attempt offered :=
        congrArg Prod.snd hresult
      rw [htime]
      simp only [probeTimeout] at hspent
      omega
    · intro chosen
      rw [hfailed]
      constructor
      · intro heq
        cases heq
      · intro ⟨hoffer, hintime, _⟩
        exact absurd hintime (hnone chosen hoffer)
    · intro error
      rw [hfailed, Except.error.injEq]
      constructor
      · rintro rfl
        exact ⟨hnone, hempty, hlast⟩
      · intro ⟨_, hnothing, hfinal⟩
        cases hoffered : offered.getLast? with
        | none =>
            have hnil := List.getLast?_eq_none_iff.mp hoffered
            rw [hempty hnil, hnothing hnil]
            rfl
        | some last =>
            have hfirst := hlast last hoffered
            rw [hfinal last hoffered, Option.some.injEq] at hfirst
            exact hfirst.symm

/-- UDP is dropped on the way, TCP works. -/
def udpDropped : TransportMode → Attempt
  | .quicRaw => .hangs
  | .quicCamouflaged => .hangs
  | .tcpReality => .connects 300
  | .webSocketCdn => .connects 500

theorem connects_by_preference_fallback :
    (probeAndConnect (buildTransportManager "auto" none) udpDropped).2 ≤
        40000 ∧
      (probeAndConnect (buildTransportManager "auto" none) udpDropped).1 =
        .ok .tcpReality := by
  obtain ⟨htime, hchosen, _⟩ := connects_by_preference "auto" none udpDropped
  exact ⟨htime, (hchosen .tcpReality).mpr ⟨by decide, by decide, by decide⟩⟩

end Redpill
