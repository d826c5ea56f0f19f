import RtuBus.Proofs.Device.MeterScans

/-! # Drivers reach the bus only through its reads and writes

A driver is written against any bus, so whatever a relation between bus states that every read
and every write keeps (`Registers.Confined`), a driver's read of a device keeps it too: the driver
is a `ConfinedDriver`. The transmitter and the energy meter are, and so is the choice between two
confined drivers. On a master this says that a driver's reads do on the line only what the
master's reads do there.

A computation keeps a relation (`Within`) when every run ends in a state related to its start;
for a reflexive and transitive relation this is closed under `pure`, `bind` and `mapM`.
-/

namespace RtuBus

section Within

variable {β α γ : Type} (R : β → β → Prop)

/-- A computation whose every run ends in a state related by `R` to the one it started from. -/
def Within (x : StateM β α) : Prop :=
  ∀ s, R s (x.run s).2

namespace Within

variable {R}

theorem pure [Std.Refl R] (a : α) : Within R (Pure.pure a : StateM β α) :=
  fun s => Std.Refl.refl s

theorem bind [Trans R R R] {x : StateM β α} {f : α → StateM β γ} (hx : Within R x)
    (hf : ∀ a, Within R (f a)) : Within R (x >>= f) :=
  fun s => Trans.trans (hx s) (hf _ _)

variable [Std.Refl R] [Trans R R R]

theorem map {x : StateM β α} (g : α → γ) (hx : Within R x) : Within R (g <$> x) := by
  rw [← bind_pure_comp]
  exact hx.bind fun a => pure (g a)

theorem exceptBind {ε : Type} {x : ExceptT ε (StateM β) α} {f : α → ExceptT ε (StateM β) γ}
    (hx : Within R x.run) (hf : ∀ a, Within R (f a).run) : Within R (x >>= f).run := by
  rw [ExceptT.run_bind]
  refine hx.bind fun r => ?_
  cases r with
  | ok a => exact hf a
  | error e => exact pure _

theorem mapM {ε : Type} {f : α → ExceptT ε (StateM β) γ} (hf : ∀ a, Within R (f a).run)
    (as : List α) : Within R (as.mapM f).run := by
  induction as with
  | nil => exact pure _
  | cons a rest ih =>
    rw [List.mapM_cons]
    exact (hf a).exceptBind fun b => ih.exceptBind fun bs => pure _

end Within

end Within

/-- A bus whose every read and every write keeps `R`. -/
structure Registers.Confined {β : Type} (R : β → β → Prop) (bus : Registers (StateM β)) :
    Prop where
  read : ∀ slave f start count t, Within R (bus.read slave f start count t)
  write : ∀ slave register value t, Within R (bus.write slave register value t)

theorem ThermoHygro.readValues_run {m : Type → Type} [Monad m] [LawfulMonad m]
    (bus : Registers m) (slave : UInt8) (d : ThermoHygro) :
    (Driver.readValues bus slave).run d = (fun r => (r.map .climate, d)) <$> d.read bus slave := by
  simp [Driver.readValues, StateT.run]

section Drivers

variable {β : Type} {R : β → β → Prop} [Std.Refl R] [Trans R R R] {bus : Registers (StateM β)}
  (hbus : bus.Confined R)
include hbus

theorem Registers.readWord_within (slave : UInt8) (f : FunctionCode) (register : UInt16)
    (t : Nat) : Within R (bus.readWord slave f register t) := by
  unfold Registers.readWord
  refine (hbus.read _ _ _ _ _).bind fun r => ?_
  split <;> exact Within.pure _

theorem Registers.readOneOf_within (slave : UInt8) (register : UInt16) (t : Nat)
    (fs : List FunctionCode) (last : BusError) :
    Within R (bus.readOneOf slave register t fs last) := by
  induction fs generalizing last with
  | nil => exact Within.pure _
  | cons f rest ih =>
    unfold Registers.readOneOf
    refine (hbus.read _ _ _ _ _).bind fun r => ?_
    split
    · exact Within.pure _
    · exact ih last
    · exact ih _

theorem ThermoHygro.read_within (d : ThermoHygro) (slave : UInt8) :
    Within R (d.read bus slave) := by
  unfold ThermoHygro.read
  refine (Registers.readOneOf_within hbus _ _ _ _ _).bind fun r => ?_
  split
  · exact Within.pure _
  · refine (hbus.read _ _ _ _ _).bind fun r => ?_
    dsimp only
    split <;> exact (Within.pure _).bind fun _ => Within.pure _

theorem EnergyMeter.readPhaseBlock_within (slave : UInt8) (fs : List FunctionCode) (last : BusError)
    (d : EnergyMeter) : Within R ((EnergyMeter.readPhaseBlock bus slave fs last).run d) := by
  induction fs generalizing last d with
  | nil => exact Within.pure _
  | cons f rest ih =>
    simp only [EnergyMeter.readPhaseBlock, StateT.run_bind, StateT.run_get, StateT.run_monadLift,
      monadLift_self, pure_bind]
    refine ((hbus.read _ _ _ _ _).bind fun a => Within.pure _).bind fun p => ?_
    split
    · simp only [StateT.run_bind, StateT.run_set, pure_bind, StateT.run_pure]
      exact Within.pure _
    · exact ih _ _
    · exact ih _ _

theorem EnergyMeter.read_within (slave : UInt8) (d : EnergyMeter) :
    Within R ((EnergyMeter.read bus slave).run d) := by
  simp only [EnergyMeter.read, StateT.run_bind]
  have hphases : Within R ((EnergyMeter.readPhaseCurrents bus slave).run d) := by
    rw [EnergyMeter.readPhaseCurrents_run]
    exact EnergyMeter.readPhaseBlock_within hbus slave _ _ d
  refine hphases.bind fun p => ?_
  split
  · exact Within.pure _
  · simp only [StateT.run_bind, StateT.run_get, pure_bind, StateT.run_monadLift, monadLift_self]
    refine ((Within.mapM (fun r => Registers.readWord_within hbus _ _ r _) _).bind
      fun a => Within.pure _).bind fun q => ?_
    split <;> exact Within.pure _

end Drivers

/-- A driver whose read of a device keeps every relation between bus states that the bus's reads
and writes keep. -/
class ConfinedDriver (δ : Type) [Driver δ] : Prop where
  readValues_within {β : Type} {R : β → β → Prop} [Std.Refl R] [Trans R R R]
    {bus : Registers (StateM β)} (hbus : bus.Confined R) (slave : UInt8) (d : δ) :
    Within R ((Driver.readValues bus slave).run d)

instance : ConfinedDriver ThermoHygro where
  readValues_within hbus slave d := by
    rw [ThermoHygro.readValues_run]
    exact (ThermoHygro.read_within hbus d slave).map _

instance : ConfinedDriver EnergyMeter where
  readValues_within hbus slave d := by
    rw [EnergyMeter.readValues_energyMeter]
    exact (EnergyMeter.read_within hbus slave d).map _

instance {α β : Type} [Driver α] [Driver β] [ConfinedDriver α] [ConfinedDriver β] :
    ConfinedDriver (α ⊕ β) where
  readValues_within hbus slave d := by
    cases d with
    | inl d => exact (ConfinedDriver.readValues_within hbus slave d).bind fun _ => Within.pure _
    | inr d => exact (ConfinedDriver.readValues_within hbus slave d).bind fun _ => Within.pure _

end RtuBus
