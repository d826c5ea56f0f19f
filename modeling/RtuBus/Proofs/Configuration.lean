import RtuBus.Config
import RtuBus.Proofs.Requests

/-! # Validating a configuration

A configuration that decodes is accepted exactly when every sensor has a unicast slave address
`1..=247`; otherwise the first sensor in list order without one is refused, with its channel and
address (`ofJson_first_invalid_sensor`). Reading a configuration and asking a configuration for
its sensors go through the same validation, so both accept and refuse the same lists, with the
same error.
-/

namespace RtuBus

/-- `e` is the first sensor of `sensors` whose address is not a unicast slave address: every
sensor before it has one. -/
def FirstInvalid (sensors : List SensorEntry) (e : SensorEntry) : Prop :=
  ∃ pre post, sensors = pre ++ e :: post ∧ (∀ x ∈ pre, 1 ≤ x.address ∧ x.address ≤ 247) ∧
    ¬(1 ≤ e.address ∧ e.address ≤ 247)

namespace BusConfig

variable {c : BusConfig}

/-- Validation refuses a sensor exactly when its address is outside `1..=247`. -/
theorem refused_iff (e : SensorEntry) :
    (!isUnicast e.address) = true ↔ ¬(1 ≤ e.address ∧ e.address ≤ 247) := by
  rw [Bool.not_eq_true', ← Bool.not_eq_true, isUnicast_iff]

theorem validate_eq_ok_iff :
    c.validate = .ok () ↔ ∀ e ∈ c.sensors, 1 ≤ e.address ∧ e.address ≤ 247 := by
  unfold validate
  split
  · rename_i e he
    obtain ⟨hbad, -⟩ := List.find?_eq_some_iff_append.mp he
    simp only [reduceCtorEq, false_iff]
    intro hall
    exact (refused_iff e).mp hbad (hall e (List.mem_of_find?_eq_some he))
  · rename_i hnone
    simp only [true_iff]
    intro e he
    have hkept := List.find?_eq_none.mp hnone e he
    rwa [refused_iff, Decidable.not_not] at hkept

theorem validate_eq_error_iff {err : ConfigError} :
    c.validate = .error err ↔
      ∃ e, FirstInvalid c.sensors e ∧ err = .invalidAddress e.channel e.address := by
  unfold validate
  split
  · rename_i e he
    obtain ⟨hbad, pre, post, hsplit, hbefore⟩ := List.find?_eq_some_iff_append.mp he
    have hfirst : FirstInvalid c.sensors e :=
      ⟨pre, post, hsplit, fun x hx => isUnicast_iff.mp (by simpa using hbefore x hx),
        (refused_iff e).mp hbad⟩
    constructor
    · rintro ⟨⟩
      exact ⟨e, hfirst, rfl⟩
    · rintro ⟨e', ⟨pre', post', hsplit', hbefore', hbad'⟩, rfl⟩
      have hfind : c.sensors.find? (fun e => !isUnicast e.address) = some e' :=
        List.find?_eq_some_iff_append.mpr ⟨(refused_iff e').mpr hbad', pre', post', hsplit',
          fun x hx => by simpa using isUnicast_iff.mpr (hbefore' x hx)⟩
      rw [he] at hfind
      cases hfind
      rfl
  · rename_i hnone
    simp only [reduceCtorEq, false_iff, not_exists, not_and]
    rintro e ⟨pre, post, hsplit, -, hbad⟩ -
    exact List.find?_eq_none.mp hnone e (by simp [hsplit]) ((refused_iff e).mpr hbad)

theorem ofJson_of_decode {text : String} (h : decode text = .ok c) :
    ofJson text = (do c.validate; pure c) := by
  simp only [ofJson, h]

theorem validated_eq_ok_iff {α : Type} (x : α) {y : α} :
    (do c.validate; pure x : Except ConfigError α) = .ok y ↔ c.validate = .ok () ∧ x = y := by
  cases c.validate <;> simp [bind, Except.bind, pure, Except.pure]

theorem validated_eq_error_iff {α : Type} (x : α) {err : ConfigError} :
    (do c.validate; pure x : Except ConfigError α) = .error err ↔ c.validate = .error err := by
  cases c.validate <;> simp [bind, Except.bind, pure, Except.pure]

/-- Reading a configuration from a text that decodes to `c`, and asking `c` for its sensors,
both accept exactly when every sensor has a slave address in `1..=247`, giving `c` and its
sensors; otherwise both refuse with the channel and address of the first sensor, in list order,
whose address is outside that range. -/
theorem ofJson_first_invalid_sensor {text : String} (h : decode text = .ok c) :
    (ofJson text = .ok c ↔ ∀ e ∈ c.sensors, 1 ≤ e.address ∧ e.address ≤ 247) ∧
    (∀ err, ofJson text = .error err ↔
      ∃ e, FirstInvalid c.sensors e ∧ err = .invalidAddress e.channel e.address) ∧
    (c.loadSensorEntries = .ok c.sensors ↔ ∀ e ∈ c.sensors, 1 ≤ e.address ∧ e.address ≤ 247) ∧
    (∀ err, c.loadSensorEntries = .error err ↔
      ∃ e, FirstInvalid c.sensors e ∧ err = .invalidAddress e.channel e.address) := by
  rw [ofJson_of_decode h]
  refine ⟨?_, fun err => ?_, ?_, fun err => ?_⟩
  · rw [validated_eq_ok_iff, validate_eq_ok_iff, and_iff_left rfl]
  · rw [validated_eq_error_iff, validate_eq_error_iff]
  · rw [loadSensorEntries, validated_eq_ok_iff, validate_eq_ok_iff, and_iff_left rfl]
  · rw [loadSensorEntries, validated_eq_error_iff, validate_eq_error_iff]

end BusConfig

/-- A configuration with three gas sensors, at addresses 1, 0 and 248. -/
def threeGasSensors : String :=
  "\x7b \"sensors\": [" ++
    "\x7b \"channel\": 1, \"address\": 1, \"type\": \"gas\" \x7d, " ++
    "\x7b \"channel\": 2, \"address\": 0, \"type\": \"gas\" \x7d, " ++
    "\x7b \"channel\": 3, \"address\": 248, \"type\": \"gas\" \x7d] \x7d"

/-- The sensor at address 0, on channel 2, is the first of the three without a unicast address,
and the configuration is refused with it. -/
theorem config_refuses_first_bad_sensor :
    BusConfig.decode threeGasSensors =
        .ok { sensors := [⟨1, 1, .gas, .none⟩, ⟨2, 0, .gas, .none⟩, ⟨3, 248, .gas, .none⟩] } ∧
      BusConfig.ofJson threeGasSensors = .error (.invalidAddress 2 0) := by
  have hdec : BusConfig.decode threeGasSensors =
      .ok { sensors := [⟨1, 1, .gas, .none⟩, ⟨2, 0, .gas, .none⟩, ⟨3, 248, .gas, .none⟩] } := by
    -- the reader recurses on well-founded measures, so its run is checked by the kernel
    have hopt : (BusConfig.decode threeGasSensors).toOption =
        some { sensors := [⟨1, 1, .gas, .none⟩, ⟨2, 0, .gas, .none⟩, ⟨3, 248, .gas, .none⟩] } := by
      decide +kernel
    revert hopt
    cases BusConfig.decode threeGasSensors <;> simp [Except.toOption]
  refine ⟨hdec, ((BusConfig.ofJson_first_invalid_sensor hdec).2.1 _).mpr ⟨⟨2, 0, .gas, .none⟩,
    ⟨[⟨1, 1, .gas, .none⟩], [⟨3, 248, .gas, .none⟩], rfl, by decide, by decide⟩, rfl⟩⟩

end RtuBus
