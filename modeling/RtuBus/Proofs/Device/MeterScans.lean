import RtuBus.Proofs.Device.Traffic
import RtuBus.Device.Driver

/-! # What an energy meter reads

On a bus that records its calls (`Registers.traced`), what each operation of an energy meter
driver reads, and what it does to the driver:

* a probe scans the single registers with each candidate function in turn, stops at the first
  register that answers, and pins and returns its function (`probeWith_scan`);
* reading the phase block scans the block with each function in turn and stops at the first read
  that got three words, whose function it pins and whose words are the phase currents; when no
  read got three words the driver is kept and the error is that of the last attempt
  (`readPhaseBlock_scan`);
* a read of all values changes the driver only by its phase block, and after it makes only
  reads, and only when the block answered (`read_traced`).
-/

namespace RtuBus

/-- Under detection the phase block is tried with the same functions as the single registers,
only in another order. -/
theorem FunctionSelect.mem_blockOrder {sel : FunctionSelect} {f : FunctionCode} :
    f ∈ sel.blockOrder ↔ f ∈ sel.candidates := by
  cases sel <;> simp [FunctionSelect.blockOrder, FunctionSelect.candidates, or_comm]

namespace RegisterRead

/-- What an attempt at the phase block gives: the three phase currents of a read that got three
words, else its error, or a short byte count for an answer of another length. -/
def phases (q : RegisterRead) : Except BusError (Reading × Reading × Reading) :=
  match q.answer with
  | .ok [a, b, c] => .ok (Reading.ofWord a 100, Reading.ofWord b 100, Reading.ofWord c 100)
  | .ok _ => .error (.byteCountMismatch 6 0)
  | .error e => .error e

/-- The error an attempt at the phase block leaves when it did not get three words. -/
def blockError (q : RegisterRead) : BusError :=
  match q.answer with
  | .ok _ => .byteCountMismatch 6 0
  | .error e => e

theorem block_of_givesBlock {q : RegisterRead} (h : q.givesBlock = true) :
    ∃ a b c, q.answer = .ok [a, b, c] := by
  rcases q with ⟨_, _, _, _, e | _ | ⟨a, _ | ⟨b, _ | ⟨c, _ | ⟨x, ws⟩⟩⟩⟩⟩ <;>
    simp_all [givesBlock]

theorem phases_of_answer {q : RegisterRead} {a b c : UInt16} (h : q.answer = .ok [a, b, c]) :
    q.phases = .ok (Reading.ofWord a 100, Reading.ofWord b 100, Reading.ofWord c 100) := by
  rw [phases, h]

end RegisterRead

/-- The error of the last of the attempts `qs` at the phase block, or `last` when there was
none. -/
def blockFailure (qs : List RegisterRead) (last : BusError) : BusError :=
  (qs.getLast?.map RegisterRead.blockError).getD last

theorem blockFailure_cons (q : RegisterRead) (qs : List RegisterRead) (last : BusError) :
    blockFailure (q :: qs) last = blockFailure qs q.blockError := by
  cases qs <;> simp [blockFailure, List.getLast?_cons]

theorem blockFailure_of_getLast? {qs : List RegisterRead} {q : RegisterRead}
    (h : qs.getLast? = some q) (last : BusError) : blockFailure qs last = q.blockError := by
  simp [blockFailure, h]

namespace EnergyMeter

@[simp] theorem pins_pin (d : EnergyMeter) (slave s : UInt8) (f : FunctionCode) :
    (d.pin slave f).pins s = if s = slave then some f else d.pins s :=
  rfl

@[simp] theorem map_pin (d : EnergyMeter) (slave : UInt8) (f : FunctionCode) :
    (d.pin slave f).map = d.map :=
  rfl

@[simp] theorem timeout_pin (d : EnergyMeter) (slave : UInt8) (f : FunctionCode) :
    (d.pin slave f).timeout = d.timeout :=
  rfl

/-- Every pinned function is one that the register map allows. -/
def PinsAllowed (d : EnergyMeter) : Prop :=
  ∀ s f, d.pins s = some f → f ∈ d.map.function.candidates

theorem new_pinsAllowed (map : EnergyMap) (t : Nat) : (new map t).PinsAllowed := by
  intro s f h
  cases h

theorem blockCandidates_allowed {d : EnergyMeter} (hd : d.PinsAllowed) {slave : UInt8}
    {f : FunctionCode} (hf : f ∈ d.blockCandidates slave) : f ∈ d.map.function.candidates := by
  unfold blockCandidates at hf
  cases hp : d.pins slave with
  | none =>
    simp only [hp] at hf
    exact FunctionSelect.mem_blockOrder.1 hf
  | some g =>
    simp only [hp, List.mem_singleton] at hf
    exact hf ▸ hd slave g hp

/-! ## The reads of each scan -/

def blockKeys (map : EnergyMap) (slave : UInt8) (fs : List FunctionCode) : List ReadKey :=
  fs.map fun f => (slave, f, map.phaseCurrents, 3)

/-- The reads of a probe of `slave`: the single registers in order, with each of `fs` in
turn. -/
def probeKeys (map : EnergyMap) (slave : UInt8) (fs : List FunctionCode) : List ReadKey :=
  fs.flatMap fun f => map.basic.map fun r => (slave, f, r, 1)

theorem probeKeys_cons (map : EnergyMap) (slave : UInt8) (f : FunctionCode)
    (fs : List FunctionCode) :
    probeKeys map slave (f :: fs) =
      map.basic.map (fun r => (slave, f, r, 1)) ++ probeKeys map slave fs :=
  List.flatMap_cons

theorem function_mem_of_blockKeys {map : EnergyMap} {slave : UInt8} {fs : List FunctionCode}
    {k : ReadKey} (hk : k ∈ blockKeys map slave fs) : k.2.1 ∈ fs := by
  obtain ⟨f, hf, rfl⟩ := List.mem_map.1 hk
  exact hf

theorem function_mem_of_probeKeys {map : EnergyMap} {slave : UInt8} {fs : List FunctionCode}
    {k : ReadKey} (hk : k ∈ probeKeys map slave fs) : k.2.1 ∈ fs := by
  obtain ⟨f, hf, hk⟩ := List.mem_flatMap.1 hk
  obtain ⟨r, -, rfl⟩ := List.mem_map.1 hk
  exact hf

/-! ## Runs on any bus -/

section Runs

variable {m : Type → Type} [Monad m] [LawfulMonad m] (bus : Registers m)

theorem readPhaseCurrents_run (slave : UInt8) (d : EnergyMeter) :
    (readPhaseCurrents bus slave).run d =
      (readPhaseBlock bus slave (d.blockCandidates slave) .timeout).run d := by
  simp [readPhaseCurrents]

theorem probe_run (slave : UInt8) (d : EnergyMeter) :
    (probe bus slave).run d = (probeWith bus slave d.map.function.candidates).run d := by
  simp [probe]

theorem readValues_energyMeter (slave : UInt8) (d : EnergyMeter) :
    (Driver.readValues bus slave).run d =
      (fun p => (p.1.map .energy, p.2)) <$> (read bus slave).run d := by
  simp [Driver.readValues, StateT.run]

end Runs

theorem blockKeys_allowed {d : EnergyMeter} (hd : d.PinsAllowed) (slave : UInt8) :
    ∀ k ∈ blockKeys d.map slave (d.blockCandidates slave),
      k.2.1 ∈ d.map.function.candidates :=
  fun _ hk => blockCandidates_allowed hd (function_mem_of_blockKeys hk)

theorem probeKeys_allowed (d : EnergyMeter) (slave : UInt8) :
    ∀ k ∈ probeKeys d.map slave d.map.function.candidates,
      k.2.1 ∈ d.map.function.candidates :=
  fun _ hk => function_mem_of_probeKeys hk

/-! ## Runs on a bus in a state monad -/

section States

variable {β δ α γ : Type}

theorem run_bind_state (x : StateT δ (StateM β) α) (f : α → StateT δ (StateM β) γ)
    (d : δ) (s : β) :
    ((x >>= f).run d).run s =
      ((f ((x.run d).run s).1.1).run ((x.run d).run s).1.2).run ((x.run d).run s).2 :=
  rfl

theorem run_get_state (d : EnergyMeter) (s : β) :
    ((get : StateT EnergyMeter (StateM β) EnergyMeter).run d).run s = ((d, d), s) :=
  rfl

theorem run_lift_state (x : StateM β α) (d : EnergyMeter) (s : β) :
    ((monadLift x : StateT EnergyMeter (StateM β) α).run d).run s =
      (((x.run s).1, d), (x.run s).2) :=
  rfl

end States

/-! ## Runs on a traced bus -/

section Traced

variable {β : Type} (bus : Registers (StateM β))

theorem anyAnswers_scan (slave : UInt8) (f : FunctionCode) (t : Nat) (regs : List UInt16)
    (l : Traced β) :
    ∃ qs hit, ScanLog RegisterRead.givesWord (regs.map fun r => (slave, f, r, 1)) qs hit ∧
      ((anyAnswers bus.traced slave f t regs).run l).2.calls = l.calls ++ qs.map BusCall.read ∧
      ((anyAnswers bus.traced slave f t regs).run l).1 = hit.isSome := by
  induction regs generalizing l with
  | nil => exact ⟨[], none, .done, (List.append_nil _).symm, rfl⟩
  | cons r rest ih =>
    obtain ⟨q, hk, hcalls, hres⟩ := bus.readWord_traced slave f r t l
    rcases hw : (bus.traced.readWord slave f r t).run l with ⟨w, l₁⟩
    rw [hw] at hcalls hres
    dsimp only at hcalls hres
    simp only [anyAnswers, traced_run_bind, hw]
    cases w with
    | ok w =>
      exact ⟨[q], some q, .found hk (RegisterRead.givesWord_of_ok hres.symm), hcalls, rfl⟩
    | error e =>
      obtain ⟨qs, hit, hscan, hcalls', hres'⟩ := ih l₁
      refine ⟨q :: qs, hit, .missed hk (RegisterRead.givesWord_of_error hres.symm) hscan, ?_,
        hres'⟩
      rw [hcalls', hcalls, List.map_cons, List.append_assoc, List.singleton_append]

theorem probeWith_cons_run (slave : UInt8) (f : FunctionCode) (fs : List FunctionCode)
    (d : EnergyMeter) (l : Traced β) :
    ((probeWith bus.traced slave (f :: fs)).run d).run l =
      if ((anyAnswers bus.traced slave f d.timeout d.map.basic).run l).1 then
        ((some f.value, d.pin slave f),
          ((anyAnswers bus.traced slave f d.timeout d.map.basic).run l).2)
      else
        ((probeWith bus.traced slave fs).run d).run
          ((anyAnswers bus.traced slave f d.timeout d.map.basic).run l).2 := by
  simp only [probeWith, StateT.run_bind, StateT.run_get, StateT.run_monadLift, monadLift_self,
    pure_bind, bind_pure_comp, StateT.run_map]
  rcases ha : (anyAnswers bus.traced slave f d.timeout d.map.basic).run l with ⟨b, l₁⟩
  cases b <;> rfl

/-- Probing with a list of functions scans the single registers with each function in turn,
stops at the first register that answers, and pins and returns that register's function. -/
theorem probeWith_scan (slave : UInt8) (fs : List FunctionCode) (d : EnergyMeter)
    (l : Traced β) :
    ∃ qs hit, ScanLog RegisterRead.givesWord (probeKeys d.map slave fs) qs hit ∧
      (((probeWith bus.traced slave fs).run d).run l).2.calls = l.calls ++ qs.map BusCall.read ∧
      (((probeWith bus.traced slave fs).run d).run l).1 =
        (hit.map (·.function.value), hit.elim d fun q => d.pin slave q.function) := by
  induction fs generalizing l with
  | nil => exact ⟨[], none, .done, (List.append_nil _).symm, rfl⟩
  | cons f fs ih =>
    obtain ⟨qs₁, hit₁, hscan₁, hcalls₁, hres₁⟩ :=
      anyAnswers_scan bus slave f d.timeout d.map.basic l
    rw [probeWith_cons_run, probeKeys_cons]
    rcases ha : (anyAnswers bus.traced slave f d.timeout d.map.basic).run l with ⟨b, l₁⟩
    rw [ha] at hcalls₁ hres₁
    subst hres₁
    cases hit₁ with
    | none =>
      obtain ⟨qs₂, hit, hscan₂, hcalls₂, hres₂⟩ := ih l₁
      simp only [Option.isSome_none, Bool.false_eq_true, ↓reduceIte] at hcalls₁ ⊢
      refine ⟨qs₁ ++ qs₂, hit, hscan₁.append hscan₂, ?_, hres₂⟩
      rw [hcalls₂, hcalls₁, List.map_append, List.append_assoc]
    | some q =>
      have hf : q.function = f := by
        obtain ⟨r, -, hr⟩ := List.mem_map.1 hscan₁.key_mem
        exact (congrArg (fun k : ReadKey => k.2.1) hr).symm
      simp only [Option.isSome_some, ↓reduceIte] at hcalls₁ ⊢
      refine ⟨qs₁, some q, hscan₁.extend _, hcalls₁, ?_⟩
      subst hf
      rfl

/-- Reading the phase block with a list of functions is a scan that stops at the first read that
got three words; that read's function is pinned and its words are the phase currents. When no
read got three words the driver is kept, and the error is that of the last attempt. -/
theorem readPhaseBlock_scan (slave : UInt8) (fs : List FunctionCode) (last : BusError)
    (d : EnergyMeter) (l : Traced β) :
    ∃ qs hit, ScanLog RegisterRead.givesBlock (blockKeys d.map slave fs) qs hit ∧
      (((readPhaseBlock bus.traced slave fs last).run d).run l).2.calls =
        l.calls ++ qs.map BusCall.read ∧
      (((readPhaseBlock bus.traced slave fs last).run d).run l).1 =
        hit.elim (.error (blockFailure qs last), d) fun q => (q.phases, d.pin slave q.function) := by
  induction fs generalizing last l with
  | nil => exact ⟨[], none, .done, (List.append_nil _).symm, rfl⟩
  | cons f fs ih =>
    simp only [readPhaseBlock, StateT.run_bind, StateT.run_get, StateT.run_monadLift,
      monadLift_self, pure_bind, bind_pure_comp, StateT.run_map]
    rw [Registers.traced_read_run]
    generalize ((bus.read slave f d.map.phaseCurrents 3 d.timeout).run l.inner).1 = a
    generalize ((bus.read slave f d.map.phaseCurrents 3 d.timeout).run l.inner).2 = b
    have hmiss : ∀ e,
        (⟨slave, f, d.map.phaseCurrents, 3, a⟩ : RegisterRead).givesBlock = false →
        e = RegisterRead.blockError ⟨slave, f, d.map.phaseCurrents, 3, a⟩ →
        ∃ qs hit, ScanLog RegisterRead.givesBlock (blockKeys d.map slave (f :: fs)) qs hit ∧
          (((readPhaseBlock bus.traced slave fs e).run d).run
              ⟨b, l.calls ++ [.read ⟨slave, f, d.map.phaseCurrents, 3, a⟩]⟩).2.calls =
            l.calls ++ qs.map BusCall.read ∧
          (((readPhaseBlock bus.traced slave fs e).run d).run
              ⟨b, l.calls ++ [.read ⟨slave, f, d.map.phaseCurrents, 3, a⟩]⟩).1 =
            hit.elim (.error (blockFailure qs last), d)
              fun q => (q.phases, d.pin slave q.function) := by
      intro e hq he
      obtain ⟨qs, hit, hscan, hcalls, hres⟩ :=
        ih e ⟨b, l.calls ++ [.read ⟨slave, f, d.map.phaseCurrents, 3, a⟩]⟩
      refine ⟨_ :: qs, hit, .missed rfl hq hscan, ?_, ?_⟩
      · rw [hcalls, List.map_cons, List.append_assoc, List.singleton_append]
      · rw [hres, blockFailure_cons, ← he]
    rcases a with e | _ | ⟨x, _ | ⟨y, _ | ⟨z, _ | ⟨u, ws⟩⟩⟩⟩
    · exact hmiss e rfl rfl
    · exact hmiss _ rfl rfl
    · exact hmiss _ rfl rfl
    · exact hmiss _ rfl rfl
    · exact ⟨[_], some _, .found rfl rfl, rfl, rfl⟩
    · exact hmiss _ (by simp [RegisterRead.givesBlock]) rfl

theorem readPhaseCurrents_scan (slave : UInt8) (d : EnergyMeter) (l : Traced β) :
    ∃ qs hit,
      ScanLog RegisterRead.givesBlock (blockKeys d.map slave (d.blockCandidates slave)) qs hit ∧
      (((readPhaseCurrents bus.traced slave).run d).run l).2.calls =
        l.calls ++ qs.map BusCall.read ∧
      (((readPhaseCurrents bus.traced slave).run d).run l).1 =
        hit.elim (.error (blockFailure qs .timeout), d)
          fun q => (q.phases, d.pin slave q.function) := by
  rw [readPhaseCurrents_run]
  exact readPhaseBlock_scan bus slave _ _ d l

/-- A read of all values changes the driver only by reading the phase block, and after the phase
block it makes only reads, and only when the block answered. -/
theorem read_traced (slave : UInt8) (d : EnergyMeter) (l : Traced β) :
    (((read bus.traced slave).run d).run l).1.2 =
        (((readPhaseCurrents bus.traced slave).run d).run l).1.2 ∧
      ∃ rs, (((read bus.traced slave).run d).run l).2.calls =
          (((readPhaseCurrents bus.traced slave).run d).run l).2.calls ++ rs.map BusCall.read ∧
        ((((readPhaseCurrents bus.traced slave).run d).run l).1.1.isOk = false → rs = []) := by
  simp only [read, run_bind_state]
  rcases hp : ((readPhaseCurrents bus.traced slave).run d).run l with ⟨⟨r, d₁⟩, l₁⟩
  cases r with
  | error e => exact ⟨rfl, [], (List.append_nil _).symm, fun _ => rfl⟩
  | ok ps =>
    simp only [run_bind_state, run_get_state, run_lift_state]
    obtain ⟨rs, -, -, hcalls, -⟩ :=
      bus.mapM_readWord_traced slave (d₁.functionFor slave) d₁.timeout d₁.map.basic l₁
    rcases hw : (d₁.map.basic.mapM fun r =>
        (ExceptT.mk (bus.traced.readWord slave (d₁.functionFor slave) r d₁.timeout) :
          ExceptT BusError (StateM (Traced β)) UInt16)).run.run l₁ with ⟨w, l₂⟩
    rw [hw] at hcalls
    refine ⟨?_, rs, ?_, fun h => by cases h⟩
    · split <;> rfl
    · split <;> exact hcalls

end Traced

end EnergyMeter

end RtuBus
