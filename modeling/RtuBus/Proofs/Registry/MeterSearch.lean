import RtuBus.Proofs.Registry.Dispatch
import RtuBus.Proofs.Registry.Probing

/-! # Finding a meter scans the unicast addresses in order

Finding the address of an energy meter in a range of slave addresses is a first-match scan
over the range's unicast addresses (`findEnergyAddress_first_meter`). The range `lo..=hi` is cut
to the unicast addresses `1..=247` and walked upwards: `unicastRange lo hi` holds exactly the
addresses of the range that are unicast, in increasing order, so an empty, reversed or partly
reserved range gives fewer addresses or none. Without an energy driver nothing is probed and no
session is opened. Otherwise the first driver that handles energy meters probes the addresses
inside one session, each on the master its previous probe left, and stops at the first address
that answers (`AddressScan`); when the session cannot be opened, nothing is probed.
-/

namespace RtuBus

variable {δ σ η : Type} [Driver δ]

/-- One driver probes addresses in turn, on a master over line `L`, until a device answers: the
driver as its probes left it, the address that answered, and the master after the probes. -/
inductive AddressScan (L : Line σ) :
    δ → List UInt8 → Master σ → δ → Option UInt8 → Master σ → Prop
  | done {d : δ} {m : Master σ} : AddressScan L d [] m d none m
  | found {d d' : δ} {address : UInt8} {rest : List UInt8} {m m' : Master σ} {f : UInt8}
      (h : ((Driver.probe (Master.registers L) address).run d).run m = ((some f, d'), m')) :
      AddressScan L d (address :: rest) m d' (some address) m'
  | missed {d d₁ d' : δ} {address : UInt8} {rest : List UInt8} {m m₁ m' : Master σ}
      {r : Option UInt8}
      (h : ((Driver.probe (Master.registers L) address).run d).run m = ((none, d₁), m₁))
      (hrest : AddressScan L d₁ rest m₁ d' r m') :
      AddressScan L d (address :: rest) m d' r m'

namespace Registry

open Arbiter

/-! ## The addresses of a range -/

theorem mem_unicastRange {lo hi x : UInt8} :
    x ∈ unicastRange lo hi ↔ lo ≤ x ∧ x ≤ hi ∧ isUnicast x = true := by
  simp only [unicastRange, List.mem_filter, List.mem_map, List.mem_range'_1,
    UInt8.le_iff_toNat_le]
  constructor
  · rintro ⟨⟨n, ⟨hlo, hhi⟩, rfl⟩, hu⟩
    -- every number of the range is at most `hi`, so it is its own byte
    have hn : (Nat.toUInt8 n).toNat = n := by
      have hmod : (Nat.toUInt8 n).toNat = n % 256 := by simp
      have := hi.toNat_lt
      omega
    exact ⟨by omega, by omega, hu⟩
  · rintro ⟨hlo, hhi, hu⟩
    exact ⟨⟨x.toNat, ⟨hlo, by omega⟩, by simp⟩, hu⟩

theorem pairwise_unicastRange (lo hi : UInt8) : (unicastRange lo hi).Pairwise (· < ·) := by
  refine List.Pairwise.filter _ ?_
  rw [List.pairwise_map]
  refine List.Pairwise.imp_of_mem (fun {m n} hm hn hmn => ?_) List.pairwise_lt_range'
  rw [List.mem_range'_1] at hm hn
  have hm' : (Nat.toUInt8 m).toNat = m % 256 := by simp
  have hn' : (Nat.toUInt8 n).toNat = n % 256 := by simp
  have := hi.toNat_lt
  rw [UInt8.lt_iff_toNat_lt]
  omega

/-! ## The scan inside a session -/

omit [Driver δ] in
theorem putDriver_self {r : Registry δ} {i : Nat} {d : δ} (h : r.drivers[i]? = some d) :
    r.putDriver i d = r := by
  obtain ⟨hi, rfl⟩ := List.getElem?_eq_some_iff.mp h
  simp [putDriver]

omit [Driver δ] in
theorem putDriver_putDriver (r : Registry δ) (i : Nat) (d d' : δ) :
    (r.putDriver i d).putDriver i d' = r.putDriver i d' := by
  simp [putDriver]

section Held

variable (L : Line σ) {me : ThreadId} {a : Arbiter σ η}
variable (hown : a.owner = some me) (hd : 0 < a.depth) (hl : a.lent = false)
include hown hd hl

/-- While `me` holds a session, probing addresses in turn with the driver at position `i` is an
`AddressScan` on the arbiter's master: the driver is put back as its last probe left it, and only
the master changes in the arbiter. -/
theorem scanAddresses_scan (i : Nat) (d : δ) (addresses : List UInt8) (r : Registry δ)
    (hi : r.drivers[i]? = some d) :
    ∃ d' found m, AddressScan L d addresses a.master d' found m ∧
      ((scanAddresses L me i d addresses).run r).run a =
        ((.ok found, r.putDriver i d'), { a with master := m }) := by
  induction addresses generalizing d r a with
  | nil => exact ⟨d, none, a.master, .done, by simp [scanAddresses, putDriver_self hi]; rfl⟩
  | cons address rest ih =>
    simp only [scanAddresses, registry_run_bind, registry_run_lift, withMaster_held hown hd hl]
    rcases hp : ((Driver.probe (Master.registers L) address).run d).run a.master with
      ⟨⟨found, d₁⟩, m₁⟩
    cases found with
    | some f => exact ⟨d₁, some address, m₁, .found hp, rfl⟩
    | none =>
      have hi₁ : (r.putDriver i d₁).drivers[i]? = some d₁ :=
        List.getElem?_set_self (List.getElem?_eq_some_iff.mp hi).1
      obtain ⟨d', found, m, hscan, hrun⟩ :=
        ih (a := { a with master := m₁ }) hown hd hl d₁ (r.putDriver i d₁) hi₁
      refine ⟨d', found, m, .missed hp hscan, ?_⟩
      rw [← putDriver_putDriver r i d₁ d']
      exact hrun

end Held

/-- Finding a meter from `lo` to `hi`, by a thread between two of its calls, over every line,
hooks, registry and arbiter state. The addresses tried are those of `unicastRange lo hi`: exactly
the unicast addresses of the range, in increasing order. Without an energy driver the result is
none and nothing changes, so no session is opened. With one, let `d` at position `i` be the first
driver that handles energy meters. When the session cannot be opened, its error is the result,
the registry is unchanged and nothing is probed. Otherwise `d` probes the addresses in order
inside that session, each on the master the probes before it left, until a device answers
(`AddressScan`); the result is that address, or none when no device answered. The driver is put
back as its probes left it, and the session is closed on the master the probes left. -/
theorem findEnergyAddress_first_meter (L : Line σ) (H : Hooks η) (me : ThreadId) (r : Registry δ)
    (lo hi : UInt8) {a : Arbiter σ η} (hb : Between me a) :
    ((unicastRange lo hi).Pairwise (· < ·) ∧
      ∀ x, x ∈ unicastRange lo hi ↔ lo ≤ x ∧ x ≤ hi ∧ isUnicast x = true) ∧
    ((∀ d ∈ r.drivers, Driver.handles d .energy = false) →
      ((findEnergyAddress L H me lo hi).run r).run a = ((.ok none, r), a)) ∧
    (∀ i d, FirstHandler .energy r.drivers i d →
      (∀ e a₁, (enter L H me).run a = (.error e, a₁) →
        ((findEnergyAddress L H me lo hi).run r).run a = ((.error e, r), a₁)) ∧
      (∀ a₁, (enter L H me).run a = (.ok (), a₁) →
        ∃ d' found m, AddressScan L d (unicastRange lo hi) a₁.master d' found m ∧
          ((findEnergyAddress L H me lo hi).run r).run a =
            ((.ok found, r.putDriver i d'), ((leave L H me).run { a₁ with master := m }).2))) := by
  refine ⟨⟨pairwise_unicastRange lo hi, fun x => mem_unicastRange⟩, fun hnone => ?_,
    fun i d hfirst => ?_⟩
  · have hf : findDriver .energy r.drivers = none := findDriver_eq_none_iff.mpr hnone
    simp only [findEnergyAddress, registry_run_bind, registry_run_get, hf]
    rfl
  have hf : findDriver .energy r.drivers = some (i, d) := findDriver_eq_some_iff.mpr hfirst
  refine ⟨fun e a₁ he => ?_, fun a₁ he => ?_⟩
  · simp only [findEnergyAddress, registry_run_bind, registry_run_get, hf, registry_run_lift, he]
    rfl
  · obtain ⟨hown, hb₁⟩ := enter_ok_held L H hb he
    obtain ⟨hd, hl⟩ := hb₁.held hown
    obtain ⟨d', found, m, hscan, hrun⟩ :=
      scanAddresses_scan L hown hd hl i d (unicastRange lo hi) r hfirst.get
    refine ⟨d', found, m, hscan, ?_⟩
    simp only [findEnergyAddress, registry_run_bind, registry_run_get, hf, registry_run_lift, he,
      hrun]
    rfl

end Registry

/-- Thread 0 looks for a meter from address 10 to 16 with the standard drivers on a free
simulated bus where slave 13 is a meter serving only its voltage, as an input register. Its
session opens; the meter driver, second of the standard drivers, probes addresses 10 to 13 in
order and stops at 13. -/
theorem meter_search_stops_at_meter :
    let a₀ : Arbiter SimBus CountingHooks :=
      { config := {}, master := { line := SimBus.setRegister {} 13 4 0 230 }, hooks := some {},
        level := .info }
    let a₁ := ((Arbiter.enter SimBus.line CountingHooks.hooks 0).run a₀).2
    Arbiter.Between 0 a₀ ∧ Registry.unicastRange 0x0A 0x10 = [10, 11, 12, 13, 14, 15, 16] ∧
    FirstHandler .energy (Registry.new {}).drivers 1 (DriverKind.build {} .energyMeter) ∧
    (Arbiter.enter SimBus.line CountingHooks.hooks 0).run a₀ = (.ok (), a₁) ∧
    ∃ d' m, AddressScan SimBus.line (DriverKind.build {} .energyMeter)
        (Registry.unicastRange 0x0A 0x10) a₁.master d' (some 13) m ∧
      ((Registry.findEnergyAddress SimBus.line CountingHooks.hooks 0 0x0A 0x10).run
          (Registry.new {})).run a₀ =
        ((.ok (some 13), (Registry.new {}).putDriver 1 d'),
          ((Arbiter.leave SimBus.line CountingHooks.hooks 0).run { a₁ with master := m }).2) := by
  intro a₀ a₁
  have hb : Arbiter.Between 0 a₀ := .of_free rfl rfl rfl rfl rfl
  have hfirst : FirstHandler .energy (Registry.new {}).drivers 1
      (DriverKind.build {} .energyMeter) := findDriver_eq_some_iff.mp rfl
  have henter : (Arbiter.enter SimBus.line CountingHooks.hooks 0).run a₀ = (.ok (), a₁) := rfl
  obtain ⟨d', found, m, hscan, hrun⟩ := ((Registry.findEnergyAddress_first_meter SimBus.line
    CountingHooks.hooks 0 (Registry.new {}) 0x0A 0x10 hb).2.2 1 _ hfirst).2 a₁ henter
  have hresult : (((Registry.findEnergyAddress SimBus.line CountingHooks.hooks 0 0x0A 0x10).run
      (Registry.new {})).run a₀).1.1.toOption = some (some 13) := by
    decide +kernel
  rw [hrun] at hresult
  cases Option.some.inj hresult
  exact ⟨hb, by decide, hfirst, henter, d', m, hscan, hrun⟩

end RtuBus
