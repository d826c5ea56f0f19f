import RtuBus.Registry
import RtuBus.Proofs.Session.Between
import RtuBus.Sim.Bus
import RtuBus.Sim.Hooks

/-! # Registry operations keep the caller's sessions

Every registry operation that a thread calls between two of its calls gives it back the
sessions it held (`registry_keeps_sessions`): the window with the same owner, depth and lending,
the log levels as they were, and a flush of the bus for every prepare. A read and a ping open a
session of their own with `withSession`; polling opens one around all its reads; probing an
address and finding a meter open one, and inside it use the master without a session of their
own.

Computations that restore whatever state they start from compose (`Keeps.bind`). The two scans
inside a session run while the thread holds the window with the master not lent, and there
every `withMaster` lends the master: they only change the master and never fail
(`probeEach_held`, `scanAddresses_held`). So an operation fails only where its own checks, the
opening of its session or the device fail, never on a missing session or a master still lent.
-/

namespace RtuBus

namespace Registry

open Arbiter

variable {δ σ η α β : Type}

section Runs

theorem registry_run_bind (x : RegistryM δ σ η α) (f : α → RegistryM δ σ η β) (r : Registry δ)
    (a : Arbiter σ η) :
    ((x >>= f).run r).run a =
      ((f ((x.run r).run a).1.1).run ((x.run r).run a).1.2).run ((x.run r).run a).2 :=
  rfl

theorem registry_run_lift (y : ArbiterM σ η α) (r : Registry δ) (a : Arbiter σ η) :
    ((liftM y : RegistryM δ σ η α).run r).run a = (((y.run a).1, r), (y.run a).2) :=
  rfl

theorem registry_run_get (r : Registry δ) (a : Arbiter σ η) :
    ((get : RegistryM δ σ η (Registry δ)).run r).run a = ((r, r), a) :=
  rfl

end Runs

/-- A registry computation that gives thread `me` back what it had, from every state in which
`me` is between two of its calls. -/
def Keeps (me : ThreadId) (x : RegistryM δ σ (Tallied η) α) : Prop :=
  ∀ r a, Between me a → Restored me a ((x.run r).run a).2

namespace Keeps

variable {me : ThreadId}

theorem pure (v : α) : Keeps me (Pure.pure v : RegistryM δ σ (Tallied η) α) :=
  fun _ a _ => .refl me a

theorem get : Keeps me (MonadState.get : RegistryM δ σ (Tallied η) (Registry δ)) :=
  fun _ a _ => .refl me a

theorem modify (f : Registry δ → Registry δ) :
    Keeps me (modify f : RegistryM δ σ (Tallied η) PUnit) :=
  fun _ a _ => .refl me a

theorem bind {x : RegistryM δ σ (Tallied η) α} {f : α → RegistryM δ σ (Tallied η) β}
    (hx : Keeps me x) (hf : ∀ v, Keeps me (f v)) : Keeps me (x >>= f) := by
  intro r a hb
  rw [registry_run_bind]
  have h₁ := hx r a hb
  exact h₁.trans (hf _ _ _ (h₁.between hb))

theorem lift {y : ArbiterM σ (Tallied η) α}
    (hy : ∀ a, Between me a → Restored me a (y.run a).2) :
    Keeps me (liftM y : RegistryM δ σ (Tallied η) α) :=
  fun _ a hb => hy a hb

end Keeps

variable [Driver δ] (L : Line σ) (H : Hooks η) (me : ThreadId)

/-! ## Reading and polling -/

theorem dispatchRead_keeps (entry : SensorEntry) :
    Keeps me (dispatchRead (δ := δ) L H.tallied me entry) := by
  unfold dispatchRead
  refine Keeps.get.bind fun r => ?_
  split
  · exact Keeps.pure _
  · refine (Keeps.lift fun a hb => (withSession_between L H hb _).1).bind fun res => ?_
    split
    · exact Keeps.pure _
    · refine (Keeps.modify _).bind fun _ => ?_
      split <;> exact Keeps.pure _

theorem pollEach_keeps (entries : List SensorEntry) :
    Keeps me (pollEach (δ := δ) L H.tallied me entries) := by
  induction entries with
  | nil => exact Keeps.pure _
  | cons entry rest ih =>
    unfold pollEach
    refine (dispatchRead_keeps L H me entry).bind fun res => ?_
    dsimp only
    split
    · exact (Keeps.pure _).bind fun here => ih.bind fun later => Keeps.pure _
    · exact (Keeps.modify _).bind fun _ =>
        (Keeps.pure _).bind fun here => ih.bind fun later => Keeps.pure _

theorem measurements_ne_bus (entry : SensorEntry) (v : DriverValues) (e : BusError) :
    measurements entry v ≠ .error (.bus e) := by
  cases v with
  | energy v => simp [measurements]
  | climate v =>
    simp only [measurements]
    split <;> simp

variable {me} {a : Arbiter σ (Tallied η)}

/-- A read fails on the bus only when its session does not open, with the error of the
`enter`, or when the driver's own read fails on the master as the session opened it. -/
theorem dispatchRead_bus_error (entry : SensorEntry) (r : Registry δ) (hb : Between me a)
    {e : BusError} (h : (((dispatchRead L H.tallied me entry).run r).run a).1.1 = .error (.bus e)) :
    ∃ i d, findDriver entry.sensorType r.drivers = some (i, d) ∧
      (((enter L H.tallied me).run a).1 = .error e ∨
        ((enter L H.tallied me).run a).1 = .ok () ∧
          (((Driver.readValues (Master.registers L) entry.address).run d).run
            ((enter L H.tallied me).run a).2.master).1.1 = .error e) := by
  rcases hf : findDriver entry.sensorType r.drivers with _ | ⟨i, d⟩
  · simp only [dispatchRead, registry_run_bind, registry_run_get, hf] at h
    cases h
  · refine ⟨i, d, rfl, ?_⟩
    have hval := (withSession_between L H hb
      ((Driver.readValues (Master.registers L) entry.address).run d)).2
    rcases hws : (withSession L H.tallied me
      ((Driver.readValues (Master.registers L) entry.address).run d)).run a with ⟨w, a₂⟩
    rw [hws] at hval
    simp only [dispatchRead, registry_run_bind, registry_run_get, hf, registry_run_lift,
      hws] at h
    subst hval
    rcases he : (enter L H.tallied me).run a with ⟨res, a₁⟩
    rw [he] at h
    cases res with
    | error e' =>
      cases h
      exact .inl rfl
    | ok u =>
      refine .inr ⟨rfl, ?_⟩
      rcases hrv : ((Driver.readValues (Master.registers L) entry.address).run d).run a₁.master
        with ⟨⟨values, d'⟩, m⟩
      rw [hrv] at h
      cases values with
      | error e' =>
        cases h
        rfl
      | ok v => exact absurd h (measurements_ne_bus entry v e)

theorem pollAll_restored (entries : List SensorEntry) (r : Registry δ) (hb : Between me a) :
    Restored me a (((pollAll L H.tallied me entries).run r).run a).2 := by
  rcases he : (enter L H.tallied me).run a with ⟨res, a₁⟩
  cases res with
  | error e =>
    have hrun : (((pollAll L H.tallied me entries).run r).run a).2 =
        (((pollEach L H.tallied me entries).run r).run a₁).2 := by
      simp only [pollAll, registry_run_bind, registry_run_lift, he]
      rfl
    have h₁ := enter_error_restored L H hb he
    rw [hrun]
    exact h₁.trans (pollEach_keeps L H me entries r a₁ (h₁.between hb))
  | ok u =>
    have hrun : (((pollAll L H.tallied me entries).run r).run a).2 =
        ((leave L H.tallied me).run (((pollEach L H.tallied me entries).run r).run a₁).2).2 := by
      simp only [pollAll, registry_run_bind, registry_run_lift, he]
      rfl
    obtain ⟨-, hb₁⟩ := enter_ok_held L H.tallied hb he
    rw [hrun]
    exact leave_after_enter L H hb he (pollEach_keeps L H me entries r a₁ hb₁)

/-! ## Probing inside a session -/

section Held

variable {a : Arbiter σ η} (hown : a.owner = some me) (hd : 0 < a.depth) (hl : a.lent = false)
include hown hd hl

/-- Asking the drivers in turn while `me` holds a session only changes the master and the
registry, and never fails. -/
theorem probeEach_held (address : UInt8) (ds : List δ) (i : Nat) (r : Registry δ) :
    ∃ p r' m, ((probeEach L me address ds i).run r).run a =
      ((.ok p, r'), { a with master := m }) := by
  induction ds generalizing i r a with
  | nil => exact ⟨none, r, a.master, rfl⟩
  | cons d rest ih =>
    simp only [probeEach, registry_run_bind, registry_run_lift, withMaster_held hown hd hl]
    rcases hp : ((Driver.probe (Master.registers L) address).run d).run a.master with
      ⟨⟨found, d'⟩, m₁⟩
    cases found with
    | some f => exact ⟨_, _, m₁, rfl⟩
    | none =>
      exact ih (a := { a with master := m₁ }) hown hd hl (i := i + 1) (r := r.putDriver i d')

/-- Probing addresses in turn while `me` holds a session only changes the master and the
registry, and never fails. -/
theorem scanAddresses_held (i : Nat) (d : δ) (addresses : List UInt8) (r : Registry δ) :
    ∃ p r' m, ((scanAddresses L me i d addresses).run r).run a =
      ((.ok p, r'), { a with master := m }) := by
  induction addresses generalizing d r a with
  | nil => exact ⟨none, r, a.master, rfl⟩
  | cons address rest ih =>
    simp only [scanAddresses, registry_run_bind, registry_run_lift, withMaster_held hown hd hl]
    rcases hp : ((Driver.probe (Master.registers L) address).run d).run a.master with
      ⟨⟨found, d'⟩, m₁⟩
    cases found with
    | some f => exact ⟨_, _, m₁, rfl⟩
    | none =>
      exact ih (a := { a with master := m₁ }) hown hd hl (d := d') (r := r.putDriver i d')

end Held

/-- Probing an address restores, and fails exactly when the address is not a unicast address
or its session does not open. -/
theorem probeUnknown_restored (address : UInt8) (r : Registry δ) (hb : Between me a) :
    Restored me a (((probeUnknown L H.tallied me address).run r).run a).2 ∧
      ∀ e, (((probeUnknown L H.tallied me address).run r).run a).1.1 = .error e ↔
        (isUnicast address = false ∧ e = .invalidArgument) ∨
          (isUnicast address = true ∧ ((enter L H.tallied me).run a).1 = .error e) := by
  cases hu : isUnicast address with
  | false =>
    have hrun : ((probeUnknown L H.tallied me address).run r).run a =
        ((.error .invalidArgument, r), a) := by
      simp only [probeUnknown, hu, Bool.not_false, ↓reduceIte]
      rfl
    rw [hrun]
    exact ⟨.refl me a, fun e => by simp [eq_comm]⟩
  | true =>
    rcases he : (enter L H.tallied me).run a with ⟨res, a₁⟩
    cases res with
    | error e' =>
      have hrun : ((probeUnknown L H.tallied me address).run r).run a = ((.error e', r), a₁) := by
        simp only [probeUnknown, hu, Bool.not_true, Bool.false_eq_true, ↓reduceIte,
          registry_run_bind, registry_run_lift, he]
        rfl
      rw [hrun]
      exact ⟨enter_error_restored L H hb he, fun e => by simp⟩
    | ok u =>
      obtain ⟨hown, hb₁⟩ := enter_ok_held L H.tallied hb he
      obtain ⟨hd, hl⟩ := hb₁.held hown
      obtain ⟨p, r', m, hp⟩ := probeEach_held L hown hd hl address r.drivers 0 r
      have hrun : ((probeUnknown L H.tallied me address).run r).run a =
          ((.ok p, r'), ((leave L H.tallied me).run { a₁ with master := m }).2) := by
        simp only [probeUnknown, hu, Bool.not_true, Bool.false_eq_true, ↓reduceIte,
          registry_run_bind, registry_run_lift, he, registry_run_get, hp]
        rfl
      rw [hrun]
      exact ⟨leave_after_enter L H hb he (.master me a₁ m), fun e => by simp⟩

/-- Finding a meter restores, and fails exactly when there is an energy driver and the session
does not open. -/
theorem findEnergyAddress_restored (lo hi : UInt8) (r : Registry δ) (hb : Between me a) :
    Restored me a (((findEnergyAddress L H.tallied me lo hi).run r).run a).2 ∧
      ∀ e, (((findEnergyAddress L H.tallied me lo hi).run r).run a).1.1 = .error e ↔
        (findDriver .energy r.drivers).isSome ∧ ((enter L H.tallied me).run a).1 = .error e := by
  rcases hf : findDriver .energy r.drivers with _ | ⟨i, d⟩
  · have hrun : ((findEnergyAddress L H.tallied me lo hi).run r).run a = ((.ok none, r), a) := by
      simp only [findEnergyAddress, registry_run_bind, registry_run_get, hf]
      rfl
    rw [hrun]
    exact ⟨.refl me a, fun e => by simp⟩
  · rcases he : (enter L H.tallied me).run a with ⟨res, a₁⟩
    cases res with
    | error e' =>
      have hrun : ((findEnergyAddress L H.tallied me lo hi).run r).run a =
          ((.error e', r), a₁) := by
        simp only [findEnergyAddress, registry_run_bind, registry_run_get, hf, registry_run_lift,
          he]
        rfl
      rw [hrun]
      exact ⟨enter_error_restored L H hb he, fun e => by simp⟩
    | ok u =>
      obtain ⟨hown, hb₁⟩ := enter_ok_held L H.tallied hb he
      obtain ⟨hd, hl⟩ := hb₁.held hown
      obtain ⟨p, r', m, hp⟩ := scanAddresses_held L hown hd hl i d (unicastRange lo hi) r
      have hrun : ((findEnergyAddress L H.tallied me lo hi).run r).run a =
          ((.ok p, r'), ((leave L H.tallied me).run { a₁ with master := m }).2) := by
        simp only [findEnergyAddress, registry_run_bind, registry_run_get, hf, registry_run_lift,
          he, hp]
        rfl
      rw [hrun]
      exact ⟨leave_after_enter L H hb he (.master me a₁ m), fun e => by simp⟩

omit [Driver δ] in
/-- A ping restores, and gives the error of the `enter` or else what the master's ping gives
on the master as the session opened it. -/
theorem ping_restored (address : UInt8) (r : Registry δ) (hb : Between me a) :
    Restored me a (((ping L H.tallied me address).run r).run a).2 ∧
      (((ping L H.tallied me address).run r).run a).1.1 =
        ((enter L H.tallied me).run a).1.bind fun _ =>
          ((Master.ping L address r.pingTimeout).run.run
            ((enter L H.tallied me).run a).2.master).1 := by
  obtain ⟨hres, hval⟩ := withSession_between L H hb (Master.ping L address r.pingTimeout).run
  have hrun : ((ping L H.tallied me address).run r).run a =
      ((((withSession L H.tallied me (Master.ping L address r.pingTimeout).run).run a).1.bind id,
        r), ((withSession L H.tallied me (Master.ping L address r.pingTimeout).run).run a).2) :=
    rfl
  rw [hrun, hval]
  refine ⟨hres, ?_⟩
  cases ((enter L H.tallied me).run a).1 <;> rfl

end Registry

open Registry Arbiter

variable {δ σ η : Type} [Driver δ]

/-- Every registry operation, called by a thread between two of its calls, whatever the bus,
the hooks, the registry and the window's holder, gives the thread back the sessions it held, on
success and on every error: the window with the same owner and depth, the master not lent, the
log levels as they were, and a flush of the bus for every prepare. None of them fails for want of
a session or for a master still lent: a read fails on the bus only where its session does not
open or its driver's read fails; probing an address only on an address that is not unicast or
where its session does not open; finding a meter only where its session does not open; and a
ping gives the error of its session or of the master's ping. -/
theorem registry_keeps_sessions (L : Line σ) (H : Hooks η) (me : ThreadId) (r : Registry δ)
    {a : Arbiter σ (Tallied η)} (hb : Between me a) :
    (∀ entry, Restored me a (((dispatchRead L H.tallied me entry).run r).run a).2 ∧
      ∀ e, (((dispatchRead L H.tallied me entry).run r).run a).1.1 = .error (.bus e) →
        ∃ i d, findDriver entry.sensorType r.drivers = some (i, d) ∧
          (((enter L H.tallied me).run a).1 = .error e ∨
            ((enter L H.tallied me).run a).1 = .ok () ∧
              (((Driver.readValues (Master.registers L) entry.address).run d).run
                ((enter L H.tallied me).run a).2.master).1.1 = .error e)) ∧
    (∀ entries, Restored me a (((pollAll L H.tallied me entries).run r).run a).2) ∧
    (∀ address, Restored me a (((probeUnknown L H.tallied me address).run r).run a).2 ∧
      ∀ e, (((probeUnknown L H.tallied me address).run r).run a).1.1 = .error e ↔
        (isUnicast address = false ∧ e = .invalidArgument) ∨
          (isUnicast address = true ∧ ((enter L H.tallied me).run a).1 = .error e)) ∧
    (∀ lo hi, Restored me a (((findEnergyAddress L H.tallied me lo hi).run r).run a).2 ∧
      ∀ e, (((findEnergyAddress L H.tallied me lo hi).run r).run a).1.1 = .error e ↔
        (findDriver .energy r.drivers).isSome ∧ ((enter L H.tallied me).run a).1 = .error e) ∧
    (∀ address, Restored me a (((ping L H.tallied me address).run r).run a).2 ∧
      (((ping L H.tallied me address).run r).run a).1.1 =
        ((enter L H.tallied me).run a).1.bind fun _ =>
          ((Master.ping L address r.pingTimeout).run.run
            ((enter L H.tallied me).run a).2.master).1) :=
  ⟨fun entry => ⟨dispatchRead_keeps L H me entry r a hb,
      fun _ h => dispatchRead_bus_error L H entry r hb h⟩,
    fun entries => pollAll_restored L H entries r hb,
    fun address => probeUnknown_restored L H address r hb,
    fun lo hi => findEnergyAddress_restored L H lo hi r hb,
    fun address => ping_restored L H address r hb⟩

def takenArbiter : Arbiter SimBus (Tallied CountingHooks) :=
  { config := {}, owner := some 1, depth := 1, reported := 1, master := { line := {} },
    hooks := some { inner := {} }, level := .info }

/-- Thread 0 probes address 5 while thread 1 holds the bus: the probe times out, a busy bus
and not a missing device, and gives thread 0 back its state. -/
theorem probe_while_bus_is_taken :
    Between 0 takenArbiter ∧
      (((probeUnknown SimBus.line CountingHooks.hooks.tallied 0 5).run (Registry.new {})).run
        takenArbiter).1.1 = .error .timeout ∧
      Restored 0 takenArbiter
        (((probeUnknown SimBus.line CountingHooks.hooks.tallied 0 5).run (Registry.new {})).run
          takenArbiter).2 := by
  have hb : Between 0 takenArbiter := ⟨rfl, fun h => (by cases h), fun h => (by cases h)⟩
  obtain ⟨hres, herr⟩ := (registry_keeps_sessions SimBus.line CountingHooks.hooks 0
    (Registry.new {}) hb).2.2.1 5
  exact ⟨hb, (herr .timeout).2 (.inr ⟨rfl, rfl⟩), hres⟩

end RtuBus
