import RtuBus.Proofs.Master.Calls
import RtuBus.Sim.Bus

/-! # The remembered functions are the record of the successful pings

A master remembers, per slave, the read function that slave last answered a ping with. Over
every run of operations from a new master, on a line that behaves in any way, the function
remembered for a slave is the one its latest successful ping returned, and nothing is remembered
for a slave no ping of it has succeeded for (`hint_cache_record`). The only write is the one a
successful ping makes (`Op.hints_cases`); every other operation, and a failed ping, leaves the
remembered functions as they were. So only the two read functions are ever remembered, and only
for unicast slaves.
-/

namespace RtuBus

namespace Master

variable {σ : Type} (L : Line σ)

/-! ## Operations that leave the remembered functions alone -/

theorem init_hints (m : Master σ) : ((init L).run.run m).2.hints = m.hints := by
  rcases init_cases L m with ⟨-, h⟩ | ⟨-, _, _, -, h⟩ | ⟨-, _, _, _, -, -, h⟩ <;> rw [h]

theorem deinit_hints (m : Master σ) : ((deinit L).run.run m).2.hints = m.hints := by
  rw [deinit_run]
  split <;> rfl

theorem transact_hints (frame : RequestFrame) (n t : Nat) (m : Master σ) :
    ((transact L frame n t).run.run m).2.hints = m.hints := by
  rcases transact_cases L frame n t m with ⟨-, h⟩ | ⟨-, _, _, -, h⟩ |
    ⟨-, _, _, _, _, _, _, -, -, -, -, h⟩ | ⟨-, _, _, _, _, _, -, -, -, -, h⟩ <;> rw [h]

theorem read_hints (slave : UInt8) (f : FunctionCode) (start count : UInt16) (t : Nat)
    (m : Master σ) : ((read L slave f start count t).run.run m).2.hints = m.hints := by
  rw [read_run]
  split
  · rfl
  · exact transact_hints L _ _ _ m

theorem writeSingle_hints (slave : UInt8) (register value : UInt16) (t : Nat) (m : Master σ) :
    ((writeSingle L slave register value t).run.run m).2.hints = m.hints := by
  rw [writeSingle_run]
  split
  · rfl
  · exact transact_hints L _ _ _ m

theorem attempt_hints (slave : UInt8) (t : Nat) (f : FunctionCode) (register : UInt16)
    (may : Bool) (m : Master σ) : ((attempt L slave t f register may).run m).2.hints = m.hints := by
  have hfirst := read_hints L slave f register 1 t m
  rcases attempt_cases L slave t f register may m with ⟨-, -, h⟩ | ⟨-, h⟩ <;> rw [h]
  · rw [run_bind]
    split
    · rw [read_hints, init_hints, hfirst]
    · rw [init_hints, hfirst]
  · exact hfirst

/-! ## Pings -/

/-- Trying candidates changes the remembered functions only when one of them answers, and then
remembers that candidate's function for the slave. -/
theorem tryCandidates_hints (slave : UInt8) (t : Nat) (cs : List (FunctionCode × UInt16))
    (may : Bool) (last : BusError) (m : Master σ) :
    (∃ e, ((tryCandidates L slave t cs may last).run m).1.1 = .error e ∧
      ((tryCandidates L slave t cs may last).run m).2.hints = m.hints) ∨
    (∃ f register, (f, register) ∈ cs ∧
      ((tryCandidates L slave t cs may last).run m).1.1 = .ok f ∧
      ((tryCandidates L slave t cs may last).run m).2.hints = m.hints.set slave f) := by
  induction cs generalizing may last m with
  | nil => exact .inl ⟨last, rfl, rfl⟩
  | cons c rest ih =>
    obtain ⟨f, register⟩ := c
    rw [tryCandidates_cons, StateT.run_bind]
    rcases hatt : (attempt L slave t f register may).run m with ⟨⟨result, may'⟩, m₁⟩
    have hkeep : m₁.hints = m.hints := by rw [← attempt_hints L slave t f register may m, hatt]
    cases result with
    | ok _ =>
      refine .inr ⟨f, register, List.mem_cons_self, rfl, ?_⟩
      change m₁.hints.set slave f = _
      rw [hkeep]
    | error e =>
      rcases ih may' e m₁ with ⟨e', he, hh⟩ | ⟨f', register', hmem, hf, hh⟩
      · exact .inl ⟨e', he, hh.trans hkeep⟩
      · exact .inr ⟨f', register', List.mem_cons_of_mem _ hmem, hf, hh.trans (by rw [hkeep])⟩

/-- A ping that fails leaves the remembered functions alone; one that succeeds pinged a unicast
slave, returns the code of one of its candidates' functions, and remembers that function. -/
theorem ping_hints (slave : UInt8) (t : Nat) (m : Master σ) :
    (∃ e, ((ping L slave t).run.run m).1 = .error e ∧ ((ping L slave t).run.run m).2.hints = m.hints) ∨
    (∃ f, f ∈ (pingCandidates m.hints slave).map Prod.fst ∧ isUnicast slave = true ∧
      ((ping L slave t).run.run m).1 = .ok f.value ∧
      ((ping L slave t).run.run m).2.hints = m.hints.set slave f) := by
  rw [ping_run]
  cases hs : isUnicast slave with
  | false => exact .inl ⟨.invalidArgument, rfl, rfl⟩
  | true =>
    rw [if_pos rfl]
    dsimp only
    rcases tryCandidates_hints L slave t (pingCandidates m.hints slave) true .timeout m with
      ⟨e, he, hh⟩ | ⟨f, register, hmem, hf, hh⟩
    · exact .inl ⟨e, by rw [he]; rfl, hh⟩
    · exact .inr ⟨f, List.mem_map_of_mem (f := Prod.fst) hmem, rfl, by rw [hf]; rfl, hh⟩

/-- What one operation does to the remembered functions: a successful ping remembers the
function that answered for its slave, and everything else, a failed ping included, leaves them
alone. -/
theorem Op.hints_cases (op : Op) (m : Master σ) :
    (((op.run L).run.run m).2.hints = m.hints ∧
      ∀ s t v, op = .ping s t → ((op.run L).run.run m).1 ≠ .ok (.code v)) ∨
    (∃ s t f, op = .ping s t ∧ isUnicast s = true ∧
      f ∈ (pingCandidates m.hints s).map Prod.fst ∧
      ((op.run L).run.run m).1 = .ok (.code f.value) ∧
      ((op.run L).run.run m).2.hints = m.hints.set s f) := by
  -- every operation but a ping leaves the remembered functions alone
  have other : ∀ {β : Type} (g : β → Reply) (x : MasterM σ β),
      (x.run.run m).2.hints = m.hints → (∀ s t, op ≠ .ping s t) →
      ((op.run L).run.run m) = ((g <$> x).run.run m) →
      ((op.run L).run.run m).2.hints = m.hints ∧
        ∀ s t v, op = .ping s t → ((op.run L).run.run m).1 ≠ .ok (.code v) := by
    intro β g x hx hne hop
    exact ⟨by rw [hop, map_run]; exact hx, fun s t _ h => absurd h (hne s t)⟩
  cases op with
  | init => exact .inl (other _ _ (init_hints L m) (by simp) rfl)
  | deinit => exact .inl (other _ _ (deinit_hints L m) (by simp) rfl)
  | read s f a n t => exact .inl (other _ _ (read_hints L s f a n t m) (by simp) rfl)
  | readHolding s a n t => exact .inl (other _ _ (read_hints L s _ a n t m) (by simp) rfl)
  | readInput s a n t => exact .inl (other _ _ (read_hints L s _ a n t m) (by simp) rfl)
  | writeSingle s r v t => exact .inl (other _ _ (writeSingle_hints L s r v t m) (by simp) rfl)
  | ping s t =>
    have hrun : ((Op.ping s t).run L).run.run m =
        (((Master.ping L s t).run.run m).1.map .code, ((Master.ping L s t).run.run m).2) :=
      map_run _ _ _
    rcases ping_hints L s t m with ⟨e, he, hh⟩ | ⟨f, hmem, hs, hf, hh⟩
    · refine .inl ⟨by rw [hrun]; exact hh, fun s' t' v _ => ?_⟩
      rw [hrun, he]
      exact fun h => by cases h
    · exact .inr ⟨s, t, f, rfl, hs, hmem, by rw [hrun, hf]; rfl, by rw [hrun]; exact hh⟩

/-- Under remembered functions that are all read functions, a ping's candidates use only read
functions. -/
theorem pingCandidates_read {hints : HintCache} {slave : UInt8}
    (hread : ∀ f, hints.get slave = some f → f = .readHolding ∨ f = .readInput) {f : FunctionCode}
    (hmem : f ∈ (pingCandidates hints slave).map Prod.fst) :
    f = .readHolding ∨ f = .readInput := by
  simp only [pingCandidates, List.map_append, List.mem_append] at hmem
  rcases hmem with hmem | hmem
  · cases hh : hints.get slave with
    | none => simp [hh] at hmem
    | some g =>
      simp only [hh, List.map_cons, List.map_nil, List.mem_cons, List.not_mem_nil, or_false,
        or_self] at hmem
      exact hmem ▸ hread g hh
  · simp only [pingFallback, List.map_cons, List.map_nil, List.mem_cons, List.not_mem_nil,
      or_false] at hmem
    rcases hmem with h | h | h | h <;> simp [h]

/-! ## The record of a run -/

/-- The latest successful ping of `s`, given the one before an entry of a history and the
entry. -/
def pingStep (s : UInt8) (last : Option UInt8) : Op × Except BusError Reply → Option UInt8
  | (.ping s' _, .ok (.code v)) => if s' = s then some v else last
  | _ => last

/-- The code that the latest successful ping of `s` in a history returned, if a ping of `s`
ever succeeded. -/
def lastPing (s : UInt8) (history : List (Op × Except BusError Reply)) : Option UInt8 :=
  history.foldl (pingStep s) none

theorem lastPing_append (s : UInt8) (history : List (Op × Except BusError Reply))
    (entry : Op × Except BusError Reply) :
    lastPing s (history ++ [entry]) = pingStep s (lastPing s history) entry := by
  simp [lastPing]

/-- An entry that is not a successful ping keeps the latest one. -/
theorem pingStep_of_failed {s : UInt8} {last : Option UInt8} {op : Op}
    {r : Except BusError Reply} (h : ∀ s' t v, op = .ping s' t → r ≠ .ok (.code v)) :
    pingStep s last (op, r) = last := by
  cases op with
  | ping s' t =>
    rcases r with e | reply
    · rfl
    · cases reply with
      | code v => exact absurd rfl (h s' t v rfl)
      | done | words _ => rfl
  | _ => rfl

/-- The remembered functions are the record of the successful pings of a history. -/
structure HintRecord (hints : HintCache) (history : List (Op × Except BusError Reply)) : Prop where
  /-- The function remembered for a slave is the one its latest successful ping returned, and
  there is none if no ping of it succeeded. -/
  get_eq : ∀ s, hints.get s = (lastPing s history).map FunctionCode.mk
  /-- Only the two read functions are remembered. -/
  read_function : ∀ s f, hints.get s = some f → f = .readHolding ∨ f = .readInput
  /-- Nothing is remembered for the broadcast address and the reserved ones. -/
  unicast : ∀ s, isUnicast s = false → hints.get s = none

theorem HintRecord.empty : HintRecord HintCache.empty [] where
  get_eq s := HintCache.get_empty s
  read_function s f h := by simp [HintCache.get_empty] at h
  unicast s _ := HintCache.get_empty s

/-- One operation keeps the record, with the operation and its reply appended to the history. -/
theorem HintRecord.step {history : List (Op × Except BusError Reply)} {m : Master σ}
    (hr : HintRecord m.hints history) (op : Op) :
    HintRecord ((op.run L).run.run m).2.hints (history ++ [(op, ((op.run L).run.run m).1)]) := by
  rcases Op.hints_cases L op m with ⟨hkeep, hfail⟩ | ⟨s₀, t, f, hop, hs₀, hmem, hr₀, hset⟩
  · rw [hkeep]
    refine ⟨fun s => ?_, hr.read_function, hr.unicast⟩
    rw [lastPing_append, pingStep_of_failed hfail]
    exact hr.get_eq s
  · have hf := pingCandidates_read (hr.read_function s₀) hmem
    have hslot : s₀ ≤ maxSlave := by
      simp only [isUnicast, Bool.and_eq_true, decide_eq_true_eq] at hs₀
      exact hs₀.2
    have hcode : f.value ≠ 0 := by
      rcases hf with rfl | rfl <;> decide
    rw [hset, hr₀, hop]
    refine ⟨fun s => ?_, fun s g hg => ?_, fun s hs => ?_⟩
    · rw [lastPing_append]
      by_cases hs : s = s₀
      · subst hs
        simp [pingStep, HintCache.get_set_self _ _ _ hslot hcode]
      · simp [pingStep, Ne.symm hs, HintCache.get_set_of_ne _ _ _ _ hs, hr.get_eq s]
    · by_cases hs : s = s₀
      · subst hs
        rw [HintCache.get_set_self _ _ _ hslot hcode] at hg
        cases hg
        exact hf
      · rw [HintCache.get_set_of_ne _ _ _ _ hs] at hg
        exact hr.read_function s g hg
    · have hne : s ≠ s₀ := by
        rintro rfl
        rw [hs₀] at hs
        cases hs
      rw [HintCache.get_set_of_ne _ _ _ _ hne]
      exact hr.unicast s hs

theorem HintRecord.runOps {history : List (Op × Except BusError Reply)} {m : Master σ}
    (hr : HintRecord m.hints history) (ops : List Op) :
    HintRecord ((runOps L ops).run m).2.hints (history ++ ((runOps L ops).run m).1) := by
  induction ops generalizing m history with
  | nil => simpa only [runOps_nil, List.append_nil] using hr
  | cons op rest ih =>
    rw [runOps_cons]
    have h := ih (hr.step L op)
    rwa [List.append_assoc, List.singleton_append] at h

/-- Over every run of operations from a master that remembers nothing, on a line that behaves in
any way, the functions remembered are the record of the run's successful pings; and any
operation but a successful ping of a slave leaves the function remembered for that slave as it
was. -/
theorem hint_cache_record (m : Master σ) (ops : List Op) (hm : m.hints = HintCache.empty) :
    HintRecord ((runOps L ops).run m).2.hints ((runOps L ops).run m).1 ∧
    ∀ (m' : Master σ) (op : Op) (s : UInt8),
      (∀ t v, op = .ping s t → ((op.run L).run.run m').1 ≠ .ok (.code v)) →
      ((op.run L).run.run m').2.hints.get s = m'.hints.get s := by
  refine ⟨?_, fun m' op s hnot => ?_⟩
  · have h := (hm ▸ HintRecord.empty : HintRecord m.hints []).runOps L ops
    rwa [List.nil_append] at h
  · rcases Op.hints_cases L op m' with ⟨hkeep, -⟩ | ⟨s₀, t, f, rfl, -, -, hr₀, hset⟩
    · rw [hkeep]
    · have hne : s ≠ s₀ := by
        rintro rfl
        exact hnot t f.value rfl hr₀
      rw [hset, HintCache.get_set_of_ne _ _ _ _ hne]

end Master

end RtuBus

namespace RtuBus

theorem hint_cache_record_fresh :
    ({ line := {} } : Master SimBus).hints = HintCache.empty ∧
    (Master.HintRecord
        ((Master.runOps SimBus.line [.init, .ping 5 200]).run { line := {} }).2.hints
        ((Master.runOps SimBus.line [.init, .ping 5 200]).run { line := {} }).1 ∧
      ∀ (m' : Master SimBus) (op : Master.Op) (s : UInt8),
        (∀ t v, op = .ping s t → ((op.run SimBus.line).run.run m').1 ≠ .ok (.code v)) →
        ((op.run SimBus.line).run.run m').2.hints.get s = m'.hints.get s) :=
  ⟨rfl, Master.hint_cache_record SimBus.line { line := {} } [.init, .ping 5 200] rfl⟩

end RtuBus
