import RtuBus.Proofs.Registry.Sessions

/-! # Reading one sensor

A read goes to the first driver of the registry that handles the entry's sensor type
(`FirstHandler`, which `findDriver` finds exactly). With none, the read fails as unsupported
before anything happens on the bus. Otherwise the driver reads the device in a session of its
own, and what it read is shaped into measurements: energy values give their three phase
currents, and a transmitter's values are filtered by the channel's type. The main statement is
`dispatchRead_outcomes`.
-/

namespace RtuBus

variable {δ : Type} [Driver δ]

/-- `d`, at position `i` of `ds`, is the first driver of `ds` that reads sensors of type `t`. -/
structure FirstHandler (t : SensorType) (ds : List δ) (i : Nat) (d : δ) : Prop where
  get : ds[i]? = some d
  handles : Driver.handles d t = true
  before : ∀ j < i, ∀ d', ds[j]? = some d' → Driver.handles d' t = false

theorem findDriver_eq_none_iff {t : SensorType} {ds : List δ} :
    findDriver t ds = none ↔ ∀ d ∈ ds, Driver.handles d t = false := by
  induction ds with
  | nil => simp [findDriver]
  | cons d rest ih =>
    cases h : Driver.handles d t <;> simp [findDriver, h, ih]

namespace FirstHandler

variable {t : SensorType} {d d' : δ} {rest : List δ} {i : Nat}

theorem cons_zero_iff : FirstHandler t (d' :: rest) 0 d ↔ d' = d ∧ Driver.handles d' t = true := by
  constructor
  · intro hf
    have hd : d' = d := by simpa using hf.get
    exact ⟨hd, hd ▸ hf.handles⟩
  · rintro ⟨rfl, h⟩
    exact ⟨rfl, h, fun j hj => absurd hj (Nat.not_lt_zero j)⟩

/-- A first handler further down the list is one of the rest, past a head that does not handle
the type. -/
theorem cons_succ_iff :
    FirstHandler t (d' :: rest) (i + 1) d ↔ Driver.handles d' t = false ∧ FirstHandler t rest i d := by
  constructor
  · intro hf
    refine ⟨hf.before 0 (Nat.succ_pos i) d' rfl, by simpa using hf.get, hf.handles,
      fun j hj d₀ hd₀ => hf.before (j + 1) (by omega) d₀ (by simpa using hd₀)⟩
  · rintro ⟨h, hf⟩
    refine ⟨by simpa using hf.get, hf.handles, fun j hj d₀ hd₀ => ?_⟩
    cases j with
    | zero => simp at hd₀; exact hd₀ ▸ h
    | succ j => exact hf.before j (by omega) d₀ (by simpa using hd₀)

end FirstHandler

theorem findDriver_eq_some_iff {t : SensorType} {ds : List δ} {i : Nat} {d : δ} :
    findDriver t ds = some (i, d) ↔ FirstHandler t ds i d := by
  induction ds generalizing i with
  | nil => exact ⟨fun h => (by cases h), fun h => (by cases h.get)⟩
  | cons d' rest ih =>
    cases i with
    | zero =>
      rw [FirstHandler.cons_zero_iff]
      cases h : Driver.handles d' t <;> simp [findDriver, h]
    | succ i =>
      rw [FirstHandler.cons_succ_iff, ← ih]
      cases h : Driver.handles d' t <;> simp [findDriver, h]

namespace Arbiter

variable {σ η α : Type} (L : Line σ) (H : Hooks η) {me : ThreadId}

/-- What `withMaster` returns is the program's result on some master. -/
theorem withMaster_ok {f : StateM (Master σ) α} {x : α} {a : Arbiter σ η}
    (h : ((withMaster me f).run a).1 = .ok x) : ∃ m, (f.run m).1 = x := by
  simp only [withMaster, lend, arbiterM_run_bind] at h
  rcases hc : (checkSession me).run a with ⟨rc, a₁⟩
  rw [hc] at h
  cases rc with
  | error e => cases h
  | ok u =>
    rcases hb : borrow.run a₁ with ⟨rb, a₂⟩
    simp only [arbiterM_run_bind, hb] at h
    cases rb with
    | error e => cases h
    | ok u' =>
      simp only [arbiterM_run_bind, onMaster_run, giveBack_run] at h
      cases h
      exact ⟨_, rfl⟩

/-- What `withSession` returns is the program's result on some master. -/
theorem withSession_ok {f : StateM (Master σ) α} {x : α} {a : Arbiter σ η}
    (h : ((withSession L H me f).run a).1 = .ok x) : ∃ m, (f.run m).1 = x := by
  simp only [withSession, arbiterM_run_bind] at h
  rcases he : (enter L H me).run a with ⟨re, a₁⟩
  rw [he] at h
  cases re with
  | error e => cases h
  | ok u =>
    simp only [arbiterM_run_bind] at h
    exact withMaster_ok (by rw [← h]; rfl)

end Arbiter

section Measurements

variable {entry : SensorEntry} {v : ClimateValues}

theorem measurements_energy (v : EnergyValues) :
    measurements entry (.energy v) =
      .ok [⟨entry.channel, .currentRms, v.phaseCurrents.1⟩,
        ⟨entry.channel, .currentRms, v.phaseCurrents.2.1⟩,
        ⟨entry.channel, .currentRms, v.phaseCurrents.2.2⟩] :=
  rfl

theorem measurements_misconfigured (h : entry.sensorType = .humidity ∧ v.humidity = none) :
    measurements entry (.climate v) = .error (.misconfigured entry.channel .humidity) := by
  obtain ⟨ht, hh⟩ := h
  simp [measurements, ht, hh]

theorem measurements_climate (h : ¬(entry.sensorType = .humidity ∧ v.humidity = none)) :
    measurements entry (.climate v) =
      .ok ((if entry.sensorType = .humidity then [] else [⟨entry.channel, .tempC, v.temperature⟩]) ++
        (if entry.sensorType = .temperature then [] else
          v.humidity.toList.map fun h => ⟨entry.channel, .humPct, h⟩)) := by
  rw [measurements, if_neg (by simpa [Option.isNone_iff_eq_none] using h)]
  cases v.humidity <;> simp

/-- Every measurement carries the channel of its entry. -/
theorem channel_of_measurements {values : DriverValues} {ms : List Measurement}
    (h : measurements entry values = .ok ms) : ∀ m ∈ ms, m.channel = entry.channel := by
  cases values with
  | energy v =>
    cases h
    intro m hm
    obtain ⟨p, -, rfl⟩ := List.mem_map.mp hm
    rfl
  | climate v =>
    by_cases hmis : entry.sensorType = .humidity ∧ v.humidity = none
    · rw [measurements_misconfigured hmis] at h
      cases h
    · rw [measurements_climate hmis] at h
      cases h
      intro m hm
      simp only [List.mem_append] at hm
      rcases hm with hm | hm
      · split at hm <;> simp_all
      · split at hm
        · simp at hm
        · obtain ⟨h, -, rfl⟩ := List.mem_map.mp hm
          rfl

end Measurements

namespace Registry

open Arbiter

variable {σ η : Type} (L : Line σ) (H : Hooks η) (me : ThreadId)

theorem dispatchRead_unsupported {entry : SensorEntry} {r : Registry δ} (a : Arbiter σ η)
    (h : ∀ d ∈ r.drivers, Driver.handles d entry.sensorType = false) :
    ((dispatchRead L H me entry).run r).run a =
      ((.error (.unsupported entry.sensorType), r), a) := by
  simp only [dispatchRead, registry_run_bind, registry_run_get, findDriver_eq_none_iff.mpr h]
  rfl

section Handled

variable {L H me} {entry : SensorEntry} {r : Registry δ} {a a' : Arbiter σ η} {i : Nat}
  {d : δ} (hfirst : FirstHandler entry.sensorType r.drivers i d)
include hfirst

theorem dispatchRead_session_error {e : BusError}
    (hw : (withSession L H me ((Driver.readValues (Master.registers L) entry.address).run d)).run a =
      (.error e, a')) :
    ((dispatchRead L H me entry).run r).run a = ((.error (.bus e), r), a') := by
  simp only [dispatchRead, registry_run_bind, registry_run_get, findDriver_eq_some_iff.mpr hfirst,
    registry_run_lift, hw]
  rfl

theorem dispatchRead_read_error {e : BusError} {d' : δ}
    (hw : (withSession L H me ((Driver.readValues (Master.registers L) entry.address).run d)).run a =
      (.ok (.error e, d'), a')) :
    ((dispatchRead L H me entry).run r).run a = ((.error (.bus e), r.putDriver i d'), a') := by
  simp only [dispatchRead, registry_run_bind, registry_run_get, findDriver_eq_some_iff.mpr hfirst,
    registry_run_lift, hw]
  rfl

theorem dispatchRead_values {v : DriverValues} {d' : δ}
    (hw : (withSession L H me ((Driver.readValues (Master.registers L) entry.address).run d)).run a =
      (.ok (.ok v, d'), a')) :
    ((dispatchRead L H me entry).run r).run a = ((measurements entry v, r.putDriver i d'), a') := by
  simp only [dispatchRead, registry_run_bind, registry_run_get, findDriver_eq_some_iff.mpr hfirst,
    registry_run_lift, hw]
  rfl

end Handled

/-- Every measurement of a read carries the channel of its entry. -/
theorem dispatchRead_channel (entry : SensorEntry) (r : Registry δ) (a : Arbiter σ η)
    {ms : List Measurement} (h : (((dispatchRead L H me entry).run r).run a).1.1 = .ok ms) :
    ∀ m ∈ ms, m.channel = entry.channel := by
  rcases hf : findDriver entry.sensorType r.drivers with _ | ⟨i, d⟩
  · rw [dispatchRead_unsupported L H me a (findDriver_eq_none_iff.mp hf)] at h
    cases h
  · have hfirst := findDriver_eq_some_iff.mp hf
    rcases hw : (withSession L H me
      ((Driver.readValues (Master.registers L) entry.address).run d)).run a with ⟨o, a'⟩
    rcases o with e | ⟨e | v, d'⟩
    · rw [dispatchRead_session_error hfirst hw] at h
      cases h
    · rw [dispatchRead_read_error hfirst hw] at h
      cases h
    · rw [dispatchRead_values hfirst hw] at h
      exact channel_of_measurements h

end Registry

open Registry Arbiter

variable {σ η : Type}

/-- Reading one sensor, with drivers of any kind. With no driver for the entry's type the read fails as unsupported, with
the registry and the arbiter untouched: no session is begun and nothing is sent. Otherwise the
first driver that handles the type reads the device at the entry's address in a session of its
own. An error of the session or of the driver is a bus error. Energy values give their three
phase currents, in phase order. A transmitter on a humidity channel without humidity is
misconfigured; otherwise it gives its temperature unless the channel is a humidity one, and its
humidity, when it has one, unless the channel is a temperature one. Every measurement carries
the entry's channel. -/
theorem dispatchRead_outcomes (L : Line σ) (H : Hooks η) (me : ThreadId) (entry : SensorEntry)
    (r : Registry δ) (a : Arbiter σ η) :
    ((∀ d ∈ r.drivers, Driver.handles d entry.sensorType = false) →
      ((dispatchRead L H me entry).run r).run a =
        ((.error (.unsupported entry.sensorType), r), a)) ∧
    (∀ i d, FirstHandler entry.sensorType r.drivers i d → ∀ o a',
      (withSession L H me ((Driver.readValues (Master.registers L) entry.address).run d)).run a =
        (o, a') →
      (∀ e, o = .error e →
        ((dispatchRead L H me entry).run r).run a = ((.error (.bus e), r), a')) ∧
      (∀ e d', o = .ok (.error e, d') →
        ((dispatchRead L H me entry).run r).run a = ((.error (.bus e), r.putDriver i d'), a')) ∧
      (∀ v d', o = .ok (.ok (.energy v), d') → ∃ p₁ p₂ p₃, v.phaseCurrents = (p₁, p₂, p₃) ∧
        ((dispatchRead L H me entry).run r).run a =
          ((.ok [⟨entry.channel, .currentRms, p₁⟩, ⟨entry.channel, .currentRms, p₂⟩,
            ⟨entry.channel, .currentRms, p₃⟩], r.putDriver i d'), a')) ∧
      (∀ v d', o = .ok (.ok (.climate v), d') →
        (entry.sensorType = .humidity ∧ v.humidity = none →
          ((dispatchRead L H me entry).run r).run a =
            ((.error (.misconfigured entry.channel .humidity), r.putDriver i d'), a')) ∧
        (¬(entry.sensorType = .humidity ∧ v.humidity = none) →
          ((dispatchRead L H me entry).run r).run a =
            ((.ok ((if entry.sensorType = .humidity then []
                else [⟨entry.channel, .tempC, v.temperature⟩]) ++
              (if entry.sensorType = .temperature then []
                else v.humidity.toList.map fun h => ⟨entry.channel, .humPct, h⟩)),
              r.putDriver i d'), a')))) ∧
    (∀ ms, (((dispatchRead L H me entry).run r).run a).1.1 = .ok ms →
      ∀ m ∈ ms, m.channel = entry.channel) := by
  refine ⟨dispatchRead_unsupported L H me a, fun i d hfirst o a' hw => ⟨?_, ?_, ?_, ?_⟩,
    fun ms h => dispatchRead_channel L H me entry r a h⟩
  · rintro e rfl
    exact dispatchRead_session_error hfirst hw
  · rintro e d' rfl
    exact dispatchRead_read_error hfirst hw
  · rintro v d' rfl
    exact ⟨_, _, _, rfl, by rw [dispatchRead_values hfirst hw, measurements_energy]⟩
  · rintro v d' rfl
    exact ⟨fun hmis => by rw [dispatchRead_values hfirst hw, measurements_misconfigured hmis],
      fun hmis => by rw [dispatchRead_values hfirst hw, measurements_climate hmis]⟩

def idleArbiter : Arbiter SimBus CountingHooks :=
  { config := {}, master := { line := {} }, hooks := some {}, level := .info }

/-- A gas sensor on the standard drivers is unsupported, and nothing happens on the bus. -/
theorem gas_sensor_unsupported :
    (∀ d ∈ (Registry.new {}).drivers, Driver.handles d .gas = false) ∧
      ((dispatchRead SimBus.line CountingHooks.hooks 0 ⟨3, 3, .gas, .none⟩).run
          (Registry.new {})).run idleArbiter =
        ((.error (.unsupported .gas), Registry.new {}), idleArbiter) := by
  have hnone : ∀ d ∈ (Registry.new {}).drivers, Driver.handles d .gas = false := by decide
  exact ⟨hnone, (dispatchRead_outcomes SimBus.line CountingHooks.hooks 0 ⟨3, 3, .gas, .none⟩
    (Registry.new {}) idleArbiter).1 hnone⟩

end RtuBus
