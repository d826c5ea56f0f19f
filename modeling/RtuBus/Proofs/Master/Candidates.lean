import RtuBus.Proofs.Master.Record
import RtuBus.Sim.Bus

/-! # The order in which a ping tries its candidates

A ping of a unicast slave goes through its candidates in order (`pingCandidates`: the
remembered function at registers 0 and 1, then the fallback ones) and stops at the first that
answers. Each candidate gets one `Attempt`: a read of one register and, when the read finds the
master not initialized while that may still be mended, `init` and, only if `init` worked, the
same read again. The first such attempt spends the right to re-initialize, for the remembered and
the fallback candidates alike. `Tried` says this of a list of candidates, and every ping of a
unicast slave is `Tried` over its candidates; on a line that records its calls, a ping opens the
line at most once (`ping_tries_candidates`).
-/

namespace RtuBus

def LineCall.isConnect : LineCall → Bool
  | .connect _ => true
  | _ => false

theorem Opening.connects_le {b b' : Bool} {cs : List LineCall} {r : Except BusError Unit}
    (h : Opening b cs b' r) : cs.countP LineCall.isConnect ≤ 1 := by
  cases h <;> simp [LineCall.isConnect, List.countP_cons]

theorem Exchange.connects {frame : Bytes} {n t' : Nat} {b : Bool} {cs : List LineCall}
    {r : Except BusError Bytes} (h : Exchange frame n t' b cs r) :
    cs.countP LineCall.isConnect = 0 := by
  cases h <;> simp [LineCall.isConnect]

namespace Master

variable {σ : Type} (L : Line σ) (slave : UInt8) (t : Nat)

/-- One attempt at candidate `c` from master `m`, with re-initializing allowed or not (`may`):
the result `r` of the attempt, whether re-initializing is still allowed after it, and the master
after it. -/
inductive Attempt :
    FunctionCode × UInt16 → Bool → Master σ → Except BusError (List UInt16) → Bool →
      Master σ → Prop
  /-- The read's result stands: it did not find the master uninitialized, or re-initializing is
  spent. -/
  | read {c : FunctionCode × UInt16} {may : Bool} {m m' : Master σ}
      {r : Except BusError (List UInt16)} (h : (read L slave c.1 c.2 1 t).run.run m = (r, m'))
      (hstands : r = .error .notInitialized → may = false) : Attempt c may m r may m'
  /-- The read found the master not initialized and `init` failed, with the attempt's error. -/
  | initFailed {c : FunctionCode × UInt16} {m m₁ m₂ : Master σ} {e : BusError}
      (h₁ : (read L slave c.1 c.2 1 t).run.run m = (.error .notInitialized, m₁))
      (h₂ : (init L).run.run m₁ = (.error e, m₂)) : Attempt c true m (.error e) false m₂
  /-- The read found the master not initialized, `init` worked, and the same read ran again. -/
  | reread {c : FunctionCode × UInt16} {m m₁ m₂ m₃ : Master σ}
      {r : Except BusError (List UInt16)}
      (h₁ : (read L slave c.1 c.2 1 t).run.run m = (.error .notInitialized, m₁))
      (h₂ : (init L).run.run m₁ = (.ok (), m₂))
      (h₃ : (read L slave c.1 c.2 1 t).run.run m₂ = (r, m₃)) : Attempt c true m r false m₃

/-- Candidates tried in order from master `m`, with re-initializing allowed or not and `last`
the error to report when none is left: the function of the first candidate that answered, with
it remembered for the slave, or the error of the last attempt; and the master after. -/
inductive Tried : List (FunctionCode × UInt16) → Bool → BusError → Master σ →
    Except BusError FunctionCode → Master σ → Prop
  | exhausted {may : Bool} {last : BusError} {m : Master σ} : Tried [] may last m (.error last) m
  | answered {c : FunctionCode × UInt16} {rest : List (FunctionCode × UInt16)} {may may' : Bool}
      {last : BusError} {m m' : Master σ} {ws : List UInt16}
      (h : Attempt L slave t c may m (.ok ws) may' m') :
      Tried (c :: rest) may last m (.ok c.1) { m' with hints := m'.hints.set slave c.1 }
  | failed {c : FunctionCode × UInt16} {rest : List (FunctionCode × UInt16)} {may may' : Bool}
      {last e : BusError} {m m₁ m' : Master σ} {r : Except BusError FunctionCode}
      (h : Attempt L slave t c may m (.error e) may' m₁) (hrest : Tried rest may' e m₁ r m') :
      Tried (c :: rest) may last m r m'

/-- The loop body of `tryCandidates` makes one `Attempt`. -/
theorem attempt_attempt (f : FunctionCode) (register : UInt16) (may : Bool) (m : Master σ) :
    Attempt L slave t (f, register) may m ((attempt L slave t f register may).run m).1.1
      ((attempt L slave t f register may).run m).1.2
      ((attempt L slave t f register may).run m).2 := by
  rcases hread : (read L slave f register 1 t).run.run m with ⟨r₁, m₁⟩
  rcases attempt_cases L slave t f register may m with ⟨hfirst, hmay, h⟩ | ⟨hnot, h⟩
  · rw [h]
    simp only [hread] at hfirst ⊢
    subst hfirst hmay
    rw [run_bind]
    rcases hinit : (init L).run.run m₁ with ⟨ri, m₂⟩
    cases ri with
    | error e => exact .initFailed hread hinit
    | ok u => exact .reread hread hinit rfl
  · rw [h]
    simp only [hread] at hnot ⊢
    exact .read hread fun he => by simpa [he] using hnot

/-- `tryCandidates` tries its candidates as `Tried` says. -/
theorem tryCandidates_tried (cs : List (FunctionCode × UInt16)) (may : Bool) (last : BusError)
    (m : Master σ) :
    Tried L slave t cs may last m ((tryCandidates L slave t cs may last).run m).1.1
      ((tryCandidates L slave t cs may last).run m).2 := by
  induction cs generalizing may last m with
  | nil => exact .exhausted
  | cons c rest ih =>
    obtain ⟨f, register⟩ := c
    have hatt := attempt_attempt L slave t f register may m
    rw [tryCandidates_cons, StateT.run_bind]
    rcases hrun : (attempt L slave t f register may).run m with ⟨⟨result, may'⟩, m₁⟩
    rw [hrun] at hatt
    cases result with
    | ok ws => exact .answered hatt
    | error e => exact .failed hatt (ih may' e m₁)

variable {slave t}

/-- A read never opens the line. -/
theorem read_connects {f : FunctionCode} {start count : UInt16} {m m' : Master (Recorded σ)}
    {r : Except BusError (List UInt16)}
    (h : (read L.recorded slave f start count t).run.run m = (r, m')) :
    ∃ cs, m'.line.calls = m.line.calls ++ cs ∧ cs.countP LineCall.isConnect = 0 := by
  have hm : ((read L.recorded slave f start count t).run.run m).2 = m' := congrArg Prod.snd h
  subst hm
  rw [read_run]
  cases buildReadRequest? slave f start count with
  | error e => exact ⟨[], (List.append_nil _).symm, rfl⟩
  | ok frame =>
    obtain ⟨cs, hx, hcalls, -⟩ := transact_recorded L frame (5 + count.toNat * 2) t m
    exact ⟨cs, hcalls, hx.connects⟩

theorem init_connects {m m' : Master (Recorded σ)} {r : Except BusError Unit}
    (h : (init L.recorded).run.run m = (r, m')) :
    ∃ cs, m'.line.calls = m.line.calls ++ cs ∧ cs.countP LineCall.isConnect ≤ 1 := by
  have hm : ((init L.recorded).run.run m).2 = m' := congrArg Prod.snd h
  subst hm
  obtain ⟨cs, ho, hcalls⟩ := init_recorded L m
  exact ⟨cs, hcalls, ho.connects_le⟩

/-- An attempt opens the line only by spending the right to re-initialize. -/
theorem Attempt.connects {c : FunctionCode × UInt16} {may may' : Bool}
    {m m' : Master (Recorded σ)} {r : Except BusError (List UInt16)}
    (h : Attempt L.recorded slave t c may m r may' m') :
    ∃ cs, m'.line.calls = m.line.calls ++ cs ∧
      cs.countP LineCall.isConnect + may'.toNat ≤ may.toNat := by
  cases h with
  | read h _ =>
    obtain ⟨cs, hcalls, hzero⟩ := read_connects L h
    exact ⟨cs, hcalls, by omega⟩
  | initFailed h₁ h₂ =>
    obtain ⟨cs₁, hcalls₁, hzero⟩ := read_connects L h₁
    obtain ⟨cs₂, hcalls₂, hone⟩ := init_connects L h₂
    refine ⟨cs₁ ++ cs₂, by rw [hcalls₂, hcalls₁, List.append_assoc], ?_⟩
    simp only [List.countP_append, Bool.toNat_false, Bool.toNat_true]
    omega
  | reread h₁ h₂ h₃ =>
    obtain ⟨cs₁, hcalls₁, hzero₁⟩ := read_connects L h₁
    obtain ⟨cs₂, hcalls₂, hone⟩ := init_connects L h₂
    obtain ⟨cs₃, hcalls₃, hzero₃⟩ := read_connects L h₃
    refine ⟨cs₁ ++ cs₂ ++ cs₃,
      by simp only [hcalls₃, hcalls₂, hcalls₁, List.append_assoc], ?_⟩
    simp only [List.countP_append, Bool.toNat_false, Bool.toNat_true]
    omega

/-- Trying candidates opens the line at most once, and not at all once re-initializing is
spent. -/
theorem Tried.connects {cs : List (FunctionCode × UInt16)} {may : Bool} {last : BusError}
    {m m' : Master (Recorded σ)} {r : Except BusError FunctionCode}
    (h : Tried L.recorded slave t cs may last m r m') :
    ∃ calls, m'.line.calls = m.line.calls ++ calls ∧
      calls.countP LineCall.isConnect ≤ may.toNat := by
  induction h with
  | exhausted => exact ⟨[], (List.append_nil _).symm, Nat.zero_le _⟩
  | answered h =>
    obtain ⟨cs, hcalls, hle⟩ := h.connects
    exact ⟨cs, hcalls, by omega⟩
  | failed h _ ih =>
    obtain ⟨cs₁, hcalls₁, hle₁⟩ := h.connects
    obtain ⟨cs₂, hcalls₂, hle₂⟩ := ih
    refine ⟨cs₁ ++ cs₂, by rw [hcalls₂, hcalls₁, List.append_assoc], ?_⟩
    rw [List.countP_append]
    omega

/-- A ping of a unicast slave tries its candidates in order, the remembered function at
registers 0 and 1 and then the fallback ones, with one re-initialization for the whole ping, and
returns the code of the function that answered or the error of the last attempt; it opens the
line at most once. Any other address is refused with no call on the line. -/
theorem ping_tries_candidates (m : Master (Recorded σ)) (slave : UInt8) (t : Nat) :
    (isUnicast slave = true →
      ∃ r, Tried L.recorded slave t (pingCandidates m.hints slave) true .timeout m r
          ((ping L.recorded slave t).run.run m).2 ∧
        ((ping L.recorded slave t).run.run m).1 = r.map (·.value)) ∧
    (isUnicast slave = false →
      (ping L.recorded slave t).run.run m = (.error .invalidArgument, m)) ∧
    ∃ calls, ((ping L.recorded slave t).run.run m).2.line.calls = m.line.calls ++ calls ∧
      calls.countP LineCall.isConnect ≤ 1 := by
  have htried := tryCandidates_tried L.recorded slave t (pingCandidates m.hints slave) true
    .timeout m
  rw [ping_run]
  cases hs : isUnicast slave with
  | true =>
    obtain ⟨calls, hcalls, hle⟩ := htried.connects
    rw [if_pos rfl]
    exact ⟨fun _ => ⟨_, htried, rfl⟩, fun h => (by cases h), calls, hcalls, hle⟩
  | false =>
    rw [if_neg Bool.false_ne_true]
    exact ⟨fun h => (by cases h), fun _ => rfl, [], (List.append_nil _).symm, Nat.zero_le _⟩

set_option maxRecDepth 4000 in
/-- A ping of slave 2 on a master that is not initialized: the first read finds it so, `init`
opens the line, and the same candidate is read again and answers with holding registers. -/
theorem ping_reinitializes_once :
    let m₀ : Master (Recorded SimBus) := { line := { inner := SimBus.setRegister {} 2 3 0 7 } }
    isUnicast 2 = true ∧ ((ping SimBus.line.recorded 2 10).run.run m₀).1 = .ok 3 ∧
    (isUnicast 2 = true →
      ∃ r, Tried SimBus.line.recorded 2 10 (pingCandidates m₀.hints 2) true .timeout m₀ r
          ((ping SimBus.line.recorded 2 10).run.run m₀).2 ∧
        ((ping SimBus.line.recorded 2 10).run.run m₀).1 = r.map (·.value)) ∧
    (isUnicast 2 = false →
      (ping SimBus.line.recorded 2 10).run.run m₀ = (.error .invalidArgument, m₀)) ∧
    ∃ calls,
      ((ping SimBus.line.recorded 2 10).run.run m₀).2.line.calls = m₀.line.calls ++ calls ∧
        calls.countP LineCall.isConnect ≤ 1 := by
  intro m₀
  exact ⟨rfl, rfl, ping_tries_candidates SimBus.line m₀ 2 10⟩

end Master

end RtuBus
