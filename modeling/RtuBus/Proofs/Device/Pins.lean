import RtuBus.Proofs.Device.MeterTraffic
import RtuBus.Sim.Bus
import RtuBus.Master.Basic

/-! # The functions an energy meter pins

An energy meter driver pins, per slave, the read function that slave answered: a read of the
slave's phase block pins the function of the first three-register read that got three words,
and a probe pins the function of the first single register that answered. On a bus that records
its calls each operation of the driver is a step that changes only the pins, and only as its
reads say (`PinStep`). Over every run of operations from a new driver, on a bus that answers in
any way, the pin of each slave is the function of the latest read that pinned it, and one the
register map allows (`meter_pins_follow_answers`).
-/

namespace RtuBus

/-! ## Operations and what they pin -/

/-- An operation of an energy meter driver. -/
inductive MeterOp where
  | read (slave : UInt8)
  | readPhaseCurrents (slave : UInt8)
  | readValues (slave : UInt8)
  | probe (slave : UInt8)
  | changeAddress (old new : UInt8)

def firstPin (hit : RegisterRead → Bool) (slave : UInt8) (qs : List RegisterRead) (s : UInt8) :
    Option FunctionCode :=
  if s = slave then (qs.find? hit).map (·.function) else none

namespace MeterOp

/-- The slave an operation is about; an address change is about none. -/
def target : MeterOp → Option UInt8
  | read s | readPhaseCurrents s | readValues s | probe s => some s
  | changeAddress _ _ => none

/-- Carries out an operation, for what it does to the driver. -/
def run {m : Type → Type} [Monad m] (bus : Registers m) : MeterOp → StateT EnergyMeter m Unit
  | read s => discard (EnergyMeter.read bus s)
  | readPhaseCurrents s => discard (EnergyMeter.readPhaseCurrents bus s)
  | readValues s => discard (Driver.readValues bus s)
  | probe s => discard (EnergyMeter.probe bus s)
  | changeAddress old new => fun d => do
    let _ ← d.changeAddress bus old new
    pure ((), d)

/-- The function that an operation pinned for slave `s`, read off the reads `qs` it made: for
a read of the slave's values, that of its first three-register read that got three words; for a
probe of the slave, that of its first read that got a word. -/
def pinned : MeterOp → List RegisterRead → UInt8 → Option FunctionCode
  | read slave, qs, s | readPhaseCurrents slave, qs, s | readValues slave, qs, s =>
    firstPin RegisterRead.givesBlock slave qs s
  | probe slave, qs, s => firstPin RegisterRead.givesWord slave qs s
  | changeAddress _ _, _, _ => none

theorem pinned_of_target_ne {op : MeterOp} {s : UInt8} (h : op.target ≠ some s)
    (qs : List RegisterRead) : op.pinned qs s = none := by
  cases op with
  | changeAddress old new => rfl
  | _ slave =>
    have hs : s ≠ slave := fun hs => h (by rw [hs]; rfl)
    simp [pinned, firstPin, hs]

end MeterOp

/-! ## One operation -/

/-- What an operation did to the driver `d`, given the function it pinned for each slave: the
register map and the timeout are kept, each slave's pin is the function pinned for it if any and
the old one otherwise, and on a driver whose pins the map allows only allowed functions are
pinned. -/
structure PinStep (pinned : UInt8 → Option FunctionCode) (d d' : EnergyMeter) : Prop where
  map_eq : d'.map = d.map
  timeout_eq : d'.timeout = d.timeout
  pins_eq : ∀ s, d'.pins s = (pinned s).or (d.pins s)
  allowed : d.PinsAllowed → ∀ s f, pinned s = some f → f ∈ d.map.function.candidates

namespace PinStep

variable {d : EnergyMeter}

theorem unchanged : PinStep (fun _ => none) d d where
  map_eq := rfl
  timeout_eq := rfl
  pins_eq _ := rfl
  allowed _ _ _ h := by cases h

/-- A scan that pins the function of the read it stopped at pins what `firstPin` reads off its
log; it pins an allowed function when all its keys have allowed functions. -/
theorem of_scan {hit : RegisterRead → Bool} {keys : List ReadKey} {slave : UInt8}
    {qs : List RegisterRead} {r : Option RegisterRead} (hscan : ScanLog hit keys qs r)
    (hkeys : d.PinsAllowed → ∀ k ∈ keys, k.2.1 ∈ d.map.function.candidates) :
    PinStep (firstPin hit slave qs) d (r.elim d fun q => d.pin slave q.function) := by
  have hfirst : ∀ s,
      firstPin hit slave qs s = if s = slave then r.map (·.function) else none := by
    intro s
    rw [firstPin, hscan.find?_eq]
  cases r with
  | none =>
    have hnone : firstPin hit slave qs = fun _ => none := by
      funext s
      simp [hfirst]
    rw [hnone]
    exact unchanged
  | some q =>
    refine ⟨rfl, rfl, fun s => ?_, fun hd s f hf => ?_⟩
    · by_cases hs : s = slave <;> simp [hfirst, hs]
    · have hq : f = q.function := by
        by_cases hs : s = slave <;> simp_all
      exact hq ▸ hkeys hd q.key hscan.key_mem

end PinStep

theorem firstPin_append {hit : RegisterRead → Bool} {keys : List ReadKey} {slave : UInt8}
    {qs₁ qs₂ : List RegisterRead} {r : Option RegisterRead} (hscan : ScanLog hit keys qs₁ r)
    (hrest : r = none → qs₂ = []) :
    firstPin hit slave (qs₁ ++ qs₂) = firstPin hit slave qs₁ := by
  funext s
  cases r with
  | none => rw [hrest rfl, List.append_nil]
  | some q => simp [firstPin, List.find?_append, hscan.find?_eq]

namespace MeterOp

section Traced

variable {β : Type} (bus : Registers (StateM β))

theorem run_read_traced (slave : UInt8) (d : EnergyMeter) (l : Traced β) :
    (((read slave).run bus.traced).run d).run l =
      (((), (((EnergyMeter.read bus.traced slave).run d).run l).1.2),
        (((EnergyMeter.read bus.traced slave).run d).run l).2) :=
  rfl

theorem run_readValues (slave : UInt8) :
    (readValues slave).run bus.traced = (read slave).run bus.traced := by
  funext d
  simp only [run]
  rfl

theorem driver_elim {α : Type} (hit : Option RegisterRead) (x : α) (f : RegisterRead → α)
    (d : EnergyMeter) (g : RegisterRead → EnergyMeter) :
    (hit.elim (x, d) fun q => (f q, g q)).2 = hit.elim d g := by
  cases hit <;> rfl

theorem readPhaseCurrents_pinStep (slave : UInt8) (d : EnergyMeter) (l : Traced β) :
    ∃ cs, ((((readPhaseCurrents slave).run bus.traced).run d).run l).2.calls = l.calls ++ cs ∧
      PinStep ((readPhaseCurrents slave).pinned (BusCall.reads cs)) d
        ((((readPhaseCurrents slave).run bus.traced).run d).run l).1.2 := by
  obtain ⟨qs, hit, hscan, hcalls, hres⟩ := EnergyMeter.readPhaseCurrents_scan bus slave d l
  refine ⟨qs.map BusCall.read, hcalls, ?_⟩
  change PinStep _ d (((EnergyMeter.readPhaseCurrents bus.traced slave).run d).run l).1.2
  rw [hres, driver_elim, BusCall.reads_map_read]
  exact PinStep.of_scan hscan fun hd' => EnergyMeter.blockKeys_allowed hd' slave

/-- A read of a slave's values pins what its phase block read pinned: the single registers
are read after that, and only when the phase block answered. -/
theorem read_pinStep (slave : UInt8) (d : EnergyMeter) (l : Traced β) :
    ∃ cs, ((((read slave).run bus.traced).run d).run l).2.calls = l.calls ++ cs ∧
      PinStep ((read slave).pinned (BusCall.reads cs)) d
        ((((read slave).run bus.traced).run d).run l).1.2 := by
  obtain ⟨qs, hit, hscan, hcalls, hres⟩ := EnergyMeter.readPhaseCurrents_scan bus slave d l
  obtain ⟨hdriver, rs, hmore, hstop⟩ := EnergyMeter.read_traced bus slave d l
  have hrest : hit = none → rs = [] := by
    rintro rfl
    exact hstop (by rw [hres]; rfl)
  refine ⟨(qs ++ rs).map BusCall.read, ?_, ?_⟩
  · rw [run_read_traced, hmore, hcalls, List.map_append, List.append_assoc]
  · show PinStep (firstPin RegisterRead.givesBlock slave (BusCall.reads _)) d _
    rw [BusCall.reads_map_read, firstPin_append hscan hrest, run_read_traced, hdriver, hres,
      driver_elim]
    exact PinStep.of_scan hscan fun hd' => EnergyMeter.blockKeys_allowed hd' slave

/-- A probe of a slave changes only that slave's pin, to the function of the first single
register that answered. -/
theorem probe_pinStep (slave : UInt8) (d : EnergyMeter) (l : Traced β) :
    ∃ cs, ((((probe slave).run bus.traced).run d).run l).2.calls = l.calls ++ cs ∧
      PinStep ((probe slave).pinned (BusCall.reads cs)) d
        ((((probe slave).run bus.traced).run d).run l).1.2 := by
  obtain ⟨qs, hit, hscan, hcalls, hres⟩ :=
    EnergyMeter.probeWith_scan bus slave d.map.function.candidates d l
  change ∃ cs, (((EnergyMeter.probe bus.traced slave).run d).run l).2.calls = l.calls ++ cs ∧
    PinStep (firstPin RegisterRead.givesWord slave (BusCall.reads cs)) d
      (((EnergyMeter.probe bus.traced slave).run d).run l).1.2
  rw [EnergyMeter.probe_run]
  refine ⟨qs.map BusCall.read, hcalls, ?_⟩
  rw [hres, BusCall.reads_map_read]
  exact PinStep.of_scan hscan fun _ => EnergyMeter.probeKeys_allowed d slave

theorem changeAddress_pinStep (old new : UInt8) (d : EnergyMeter) (l : Traced β) :
    ∃ cs, ((((changeAddress old new).run bus.traced).run d).run l).2.calls = l.calls ++ cs ∧
      PinStep ((changeAddress old new).pinned (BusCall.reads cs)) d
        ((((changeAddress old new).run bus.traced).run d).run l).1.2 := by
  obtain ⟨cs, -, hcs⟩ := EnergyMeter.changeAddress_traced bus d old new l
  exact ⟨cs, hcs, PinStep.unchanged⟩

/-- Every operation is a `PinStep` by what its reads pinned. -/
theorem pinStep (op : MeterOp) (d : EnergyMeter) (l : Traced β) :
    ∃ cs, (((op.run bus.traced).run d).run l).2.calls = l.calls ++ cs ∧
      PinStep (op.pinned (BusCall.reads cs)) d (((op.run bus.traced).run d).run l).1.2 := by
  cases op with
  | read slave => exact read_pinStep bus slave d l
  | readPhaseCurrents slave => exact readPhaseCurrents_pinStep bus slave d l
  | readValues slave =>
    rw [run_readValues]
    exact read_pinStep bus slave d l
  | probe slave => exact probe_pinStep bus slave d l
  | changeAddress old new => exact changeAddress_pinStep bus old new d l

end Traced

end MeterOp

/-! ## Runs of operations -/

section Run

variable {β : Type} (bus : Registers (StateM β))

/-- Carries out operations one after another from driver `d` on a bus in state `b` that records
its calls: each operation with the calls it made, oldest first, and the driver after them. -/
def runMeter :
    List MeterOp → EnergyMeter → β → List (MeterOp × List BusCall) × EnergyMeter
  | [], d, _ => ([], d)
  | op :: ops, d, b =>
    let r := ((op.run bus.traced).run d).run { inner := b }
    let rest := runMeter ops r.1.2 r.2.inner
    ((op, r.2.calls) :: rest.1, rest.2)

/-- The function that the latest operation of a history that pinned one for slave `s` pinned. -/
def lastPin (s : UInt8) (history : List (MeterOp × List BusCall)) : Option FunctionCode :=
  history.foldl (fun last e => (e.1.pinned (BusCall.reads e.2) s).or last) none

theorem lastPin_append_single (s : UInt8) (history : List (MeterOp × List BusCall))
    (op : MeterOp) (cs : List BusCall) :
    lastPin s (history ++ [(op, cs)]) = (op.pinned (BusCall.reads cs) s).or (lastPin s history) := by
  simp [lastPin]

/-- The driver after a history of operations from a new driver with register map `map`: the map
is kept, the pin of each slave is the function its latest pinning read pinned, and every pin is
a function the map allows. -/
structure PinRecord (map : EnergyMap) (history : List (MeterOp × List BusCall))
    (d : EnergyMeter) : Prop where
  map_eq : d.map = map
  pins_eq : ∀ s, d.pins s = lastPin s history
  allowed : d.PinsAllowed

namespace PinRecord

variable {map : EnergyMap}

theorem new (t : Nat) : PinRecord map [] (EnergyMeter.new map t) where
  map_eq := rfl
  pins_eq _ := rfl
  allowed := EnergyMeter.new_pinsAllowed map t

theorem step {history : List (MeterOp × List BusCall)} {d d' : EnergyMeter} {op : MeterOp}
    {cs : List BusCall} (hr : PinRecord map history d)
    (hs : PinStep (op.pinned (BusCall.reads cs)) d d') :
    PinRecord map (history ++ [(op, cs)]) d' where
  map_eq := hs.map_eq.trans hr.map_eq
  pins_eq s := by rw [hs.pins_eq, hr.pins_eq, lastPin_append_single]
  allowed s f hf := by
    rw [hs.map_eq]
    rw [hs.pins_eq] at hf
    -- either the operation pinned `f` now, or `f` was pinned before
    cases hp : op.pinned (BusCall.reads cs) s with
    | none =>
      rw [hp, Option.none_or] at hf
      exact hr.allowed s f hf
    | some g =>
      rw [hp, Option.some_or, Option.some_inj] at hf
      exact hf ▸ hs.allowed hr.allowed s g hp

/-- What holds after a history holds after running more operations, with their calls added. -/
theorem runMeter {history : List (MeterOp × List BusCall)} {d : EnergyMeter}
    (hr : PinRecord map history d) (ops : List MeterOp) (b : β) :
    PinRecord map (history ++ (RtuBus.runMeter bus ops d b).1) (RtuBus.runMeter bus ops d b).2 := by
  induction ops generalizing history d b with
  | nil => simpa [RtuBus.runMeter] using hr
  | cons op ops ih =>
    obtain ⟨cs, hcalls, hstep⟩ := op.pinStep bus d { inner := b }
    rw [List.nil_append] at hcalls
    have hnext :=
      ih (hr.step (hcalls ▸ hstep)) (((op.run bus.traced).run d).run { inner := b }).2.inner
    simpa [RtuBus.runMeter] using hnext

end PinRecord

/-- Over every run of operations from a new driver with register map `map`, on a bus that
answers in any way, each slave's pin is the function that the latest read pinning it pinned,
and one the map allows. A probe scans the single registers with each allowed function in turn,
and pins and returns the function of the first register that answers, leaving the driver as it
was when none does. No operation changes the pin of a slave it is not about. -/
theorem meter_pins_follow_answers (map : EnergyMap) (t : Nat) (b : β) (ops : List MeterOp) :
    PinRecord map (runMeter bus ops (EnergyMeter.new map t) b).1
        (runMeter bus ops (EnergyMeter.new map t) b).2 ∧
      (∀ (d : EnergyMeter) (slave : UInt8) (l : Traced β), ∃ qs hit,
        (((EnergyMeter.probe bus.traced slave).run d).run l).2.calls =
          l.calls ++ qs.map BusCall.read ∧
        ScanLog RegisterRead.givesWord
          (EnergyMeter.probeKeys d.map slave d.map.function.candidates) qs hit ∧
        (((EnergyMeter.probe bus.traced slave).run d).run l).1 =
          (hit.map (·.function.value), hit.elim d fun q => d.pin slave q.function)) ∧
      ∀ (op : MeterOp) (d : EnergyMeter) (l : Traced β) (s : UInt8), op.target ≠ some s →
        (((op.run bus.traced).run d).run l).1.2.pins s = d.pins s := by
  refine ⟨?_, fun d slave l => ?_, fun op d l s hs => ?_⟩
  · simpa using (PinRecord.new t).runMeter bus ops b
  · rw [EnergyMeter.probe_run]
    obtain ⟨qs, hit, hscan, hcalls, hres⟩ :=
      EnergyMeter.probeWith_scan bus slave d.map.function.candidates d l
    exact ⟨qs, hit, hcalls, hscan, hres⟩
  · obtain ⟨qs, -, hstep⟩ := op.pinStep bus d l
    rw [hstep.pins_eq, MeterOp.pinned_of_target_ne hs, Option.none_or]

end Run

set_option maxRecDepth 4000 in
/-- On a simulated bus where slave 1 serves its voltage as an input register, a probe pins input
registers for it, and a read of its phase block that finds nothing keeps that pin. -/
theorem meter_pins_probe_then_phases :
    (runMeter (Master.registers SimBus.line) [.probe 1, .readPhaseCurrents 1]
        (EnergyMeter.new {} 200)
        ({ line := SimBus.setRegister {} 1 4 0 230, initialized := true } :
          Master SimBus)).2.pins 1 =
      some .readInput ∧
    PinRecord {}
      (runMeter (Master.registers SimBus.line) [.probe 1, .readPhaseCurrents 1]
        (EnergyMeter.new {} 200)
        ({ line := SimBus.setRegister {} 1 4 0 230, initialized := true } : Master SimBus)).1
      (runMeter (Master.registers SimBus.line) [.probe 1, .readPhaseCurrents 1]
        (EnergyMeter.new {} 200)
        ({ line := SimBus.setRegister {} 1 4 0 230, initialized := true } : Master SimBus)).2 :=
  ⟨by rfl, (meter_pins_follow_answers (Master.registers SimBus.line) {} 200
    { line := SimBus.setRegister {} 1 4 0 230, initialized := true }
    [.probe 1, .readPhaseCurrents 1]).1⟩

end RtuBus
