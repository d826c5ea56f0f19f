import RtuBus.Proofs.Registry.Sessions

/-! # Probing an address asks the drivers in order

Finding what device answers at an address is a first-match scan over the registry's drivers
(`probeUnknown_first_match`). An address that is not unicast is refused and nothing changes, so
no session is opened and nothing is sent. When the session cannot be opened, its error is the
result and no driver is asked. Otherwise, inside that one session, each driver in turn probes the
address on the master as the drivers before it left it, a driver is asked only when all before
it answered no, and the first that recognizes the device is reported with the function it
answered (`ProbeScan`). No driver after it is asked, so the master after the probes, and the
line with it, is the master the asked drivers left, and the session's `leave` follows.
-/

namespace RtuBus

variable {δ σ η : Type} [Driver δ]

/-- The report of a device at `address` that driver `d` recognized, answering function `f`. -/
def Driver.found (d : δ) (address f : UInt8) : ProbeResult :=
  ⟨address, Driver.name d, f, (Driver.identity d).1, (Driver.identity d).2⟩

/-- Drivers asked in turn, on a master over line `L`, whether the device at `address` is one of
theirs, until one says so: the drivers as their probes left them, the first driver that
recognized the device, as its probe left it, with the function it answered, and the master after
the probes. -/
inductive ProbeScan (L : Line σ) (address : UInt8) :
    List δ → Master σ → List δ → Option (δ × UInt8) → Master σ → Prop
  | done {m : Master σ} : ProbeScan L address [] m [] none m
  | found {d d' : δ} {rest : List δ} {m m' : Master σ} {f : UInt8}
      (h : ((Driver.probe (Master.registers L) address).run d).run m = ((some f, d'), m')) :
      ProbeScan L address (d :: rest) m [d'] (some (d', f)) m'
  | missed {d d' : δ} {rest ds' : List δ} {m m₁ m' : Master σ}
      {r : Option (δ × UInt8)}
      (h : ((Driver.probe (Master.registers L) address).run d).run m = ((none, d'), m₁))
      (hrest : ProbeScan L address rest m₁ ds' r m') :
      ProbeScan L address (d :: rest) m (d' :: ds') r m'

namespace Registry

open Arbiter

variable (L : Line σ) {me : ThreadId}

omit [Driver δ] in
theorem putDriver_append (r : Registry δ) {pre rest : List δ} {d : δ}
    (hr : r.drivers = pre ++ d :: rest) (d' : δ) :
    r.putDriver pre.length d' = { r with drivers := pre ++ d' :: rest } := by
  simp [putDriver, hr]

section Held

variable {a : Arbiter σ η} (hown : a.owner = some me) (hd : 0 < a.depth) (hl : a.lent = false)
include hown hd hl

/-- While `me` holds a session, asking the drivers `ds`, which stand after `pre` in the registry,
is a `ProbeScan` on the arbiter's master: the asked drivers are put back in their places, the
report is that of the first driver that recognized the device, and only the master changes in
the arbiter. -/
theorem probeEach_scan (address : UInt8) (ds : List δ) (pre : List δ) (r : Registry δ)
    (hr : r.drivers = pre ++ ds) :
    ∃ ds' found m, ProbeScan L address ds a.master ds' found m ∧
      ((probeEach L me address ds pre.length).run r).run a =
        ((.ok (found.map fun p => Driver.found p.1 address p.2),
            { r with drivers := pre ++ ds' ++ ds.drop ds'.length }),
          { a with master := m }) := by
  induction ds generalizing pre r a with
  | nil => exact ⟨[], none, a.master, .done, by simp [probeEach, ← hr]; rfl⟩
  | cons d rest ih =>
    simp only [probeEach, registry_run_bind, registry_run_lift, withMaster_held hown hd hl]
    rcases hp : ((Driver.probe (Master.registers L) address).run d).run a.master with
      ⟨⟨found, d'⟩, m₁⟩
    cases found with
    | some f =>
      have hreg : r.putDriver pre.length d' =
          { r with drivers := pre ++ [d'] ++ (d :: rest).drop [d'].length } := by
        rw [putDriver_append r hr]
        simp
      refine ⟨[d'], some (d', f), m₁, .found hp, ?_⟩
      rw [← hreg]
      rfl
    | none =>
      obtain ⟨ds', found, m, hscan, hrun⟩ := ih (a := { a with master := m₁ }) hown hd hl
        (pre ++ [d']) (r.putDriver pre.length d') (by rw [putDriver_append r hr]; simp)
      have hlen : (pre ++ [d']).length = pre.length + 1 := by simp
      rw [hlen] at hrun
      refine ⟨d' :: ds', found, m, .missed hp hscan, hrun.trans ?_⟩
      simp [putDriver]

end Held

/-- Probing an address, by a thread between two of its calls, over every line, hooks, registry
and arbiter state. An address that is not unicast is refused and nothing changes: no session,
nothing sent. When the session cannot be opened, its error is the result, the registry is
unchanged and no driver is asked. Otherwise the drivers are asked in order inside that session,
each on the master the drivers before it left, until one recognizes the device
(`ProbeScan`); the result is that driver's report, or none when no driver recognized it. The asked
drivers are put back as their probes left them, no later driver is asked, and the session is
closed on the master the asked drivers left. -/
theorem probeUnknown_first_match (H : Hooks η) (me : ThreadId) (r : Registry δ) (address : UInt8)
    {a : Arbiter σ η} (hb : Between me a) :
    (isUnicast address = false →
      ((probeUnknown L H me address).run r).run a = ((.error .invalidArgument, r), a)) ∧
    (∀ e a₁, isUnicast address = true → (enter L H me).run a = (.error e, a₁) →
      ((probeUnknown L H me address).run r).run a = ((.error e, r), a₁)) ∧
    (∀ a₁, isUnicast address = true → (enter L H me).run a = (.ok (), a₁) →
      ∃ ds' found m, ProbeScan L address r.drivers a₁.master ds' found m ∧
        ((probeUnknown L H me address).run r).run a =
          ((.ok (found.map fun p => Driver.found p.1 address p.2),
              { r with drivers := ds' ++ r.drivers.drop ds'.length }),
            ((leave L H me).run { a₁ with master := m }).2)) := by
  refine ⟨fun hu => ?_, fun e a₁ hu he => ?_, fun a₁ hu he => ?_⟩
  · simp only [probeUnknown, hu, Bool.not_false, ↓reduceIte]
    rfl
  · simp only [probeUnknown, hu, Bool.not_true, Bool.false_eq_true, ↓reduceIte,
      registry_run_bind, registry_run_lift, he]
    rfl
  · obtain ⟨hown, hb₁⟩ := enter_ok_held L H hb he
    obtain ⟨hd, hl⟩ := hb₁.held hown
    obtain ⟨ds', found, m, hscan, hp⟩ := probeEach_scan L hown hd hl address r.drivers [] r rfl
    rw [List.length_nil, List.nil_append] at hp
    refine ⟨ds', found, m, hscan, ?_⟩
    simp only [probeUnknown, hu, Bool.not_true, Bool.false_eq_true, ↓reduceIte,
      registry_run_bind, registry_run_lift, he, registry_run_get, hp]
    rfl

end Registry

/-- Thread 0 probes address 5 of a registry with the standard drivers, on a free simulated bus
where slave 5 is a meter serving only its voltage, as an input register. Its session opens; the
transmitter, asked first, does not recognize the device, and the meter driver reports it with
the input function. -/
theorem probe_finds_meter :
    let a₀ : Arbiter SimBus CountingHooks :=
      { config := {}, master := { line := SimBus.setRegister {} 5 4 0 230 }, hooks := some {},
        level := .info }
    let a₁ := ((Arbiter.enter SimBus.line CountingHooks.hooks 0).run a₀).2
    Arbiter.Between 0 a₀ ∧ isUnicast 5 = true ∧
    (Arbiter.enter SimBus.line CountingHooks.hooks 0).run a₀ = (.ok (), a₁) ∧
    ∃ ds' found m, ProbeScan SimBus.line 5 (Registry.new {}).drivers a₁.master ds' found m ∧
      found.map (fun p => Driver.found p.1 5 p.2) = some ⟨5, EnergyMeter.name, 4, .energy, .none⟩ ∧
      ((Registry.probeUnknown SimBus.line CountingHooks.hooks 0 5).run (Registry.new {})).run a₀ =
        ((.ok (found.map fun p => Driver.found p.1 5 p.2),
            { Registry.new {} with drivers := ds' ++ (Registry.new {}).drivers.drop ds'.length }),
          ((Arbiter.leave SimBus.line CountingHooks.hooks 0).run { a₁ with master := m }).2) := by
  intro a₀ a₁
  have hb : Arbiter.Between 0 a₀ := .of_free rfl rfl rfl rfl rfl
  have henter : (Arbiter.enter SimBus.line CountingHooks.hooks 0).run a₀ = (.ok (), a₁) := rfl
  obtain ⟨ds', found, m, hscan, hrun⟩ := (Registry.probeUnknown_first_match SimBus.line
    CountingHooks.hooks 0 (Registry.new {}) 5 hb).2.2 a₁ rfl henter
  have hresult : (((Registry.probeUnknown SimBus.line CountingHooks.hooks 0 5).run
      (Registry.new {})).run a₀).1.1.toOption =
        some (some ⟨5, EnergyMeter.name, 4, .energy, .none⟩) := by
    decide +kernel
  rw [hrun] at hresult
  exact ⟨hb, rfl, henter, ds', found, m, hscan, Option.some.inj hresult, hrun⟩

end RtuBus
