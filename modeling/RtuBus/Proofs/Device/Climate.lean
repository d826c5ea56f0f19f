import RtuBus.Proofs.Device.Traffic
import RtuBus.Device.ThermoHygro

/-! # What a temperature and humidity transmitter reads

On a bus that records its calls (`Registers.traced`), a read of a transmitter and a probe of it
start with the same scan: the temperature register with input registers, then with holding
registers only when input registers gave no word. The probe ends there and reports the function
that answered. The read then makes exactly one more read, of the humidity register with that
function, and a humidity it cannot read is left out rather than failing the read; when no function
answered, it fails with the error of the last read that failed and reads nothing more
(`read_and_probe_share_scan`).
-/

namespace RtuBus

namespace ThermoHygro

def temperatureKeys (slave : UInt8) : List ReadKey :=
  probeOrder.map fun f => (slave, f, temperatureRegister, 1)

/-- What a read of the transmitter at `slave` makes of its temperature scan `qs`, which stopped at
`hit`: all the reads it made, and its result. -/
inductive ClimateRead (slave : UInt8) :
    List RegisterRead → Option RegisterRead → List RegisterRead →
      Except BusError ClimateValues → Prop
  /-- No function gave a temperature word: the error of the last read that failed, or a timeout
  when none failed, and no other read. -/
  | noTemperature {qs : List RegisterRead} :
      ClimateRead slave qs none qs (.error (lastFailure qs .timeout))
  /-- The temperature register gave the word `w` to function `q.function`. One read of the
  humidity register with that function follows, and the humidity is there exactly when that read
  got a word. -/
  | answered {qs : List RegisterRead} {q h : RegisterRead} {w : UInt16}
      (hw : q.wordResult = .ok w) (hk : h.key = (slave, q.function, humidityRegister, 1)) :
      ClimateRead slave qs (some q) (qs ++ [h])
        (.ok ⟨Reading.ofSigned w 10, h.wordResult.toOption.map (Reading.ofWord · 10)⟩)

variable {β : Type} (d : ThermoHygro) (bus : Registers (StateM β))

theorem probe_run (slave : UInt8) (b : β) :
    (d.probe bus slave).run b =
      (((bus.readOneOf slave temperatureRegister d.timeout probeOrder .timeout).run b).1.toOption
          |>.map (·.1.value),
        ((bus.readOneOf slave temperatureRegister d.timeout probeOrder .timeout).run b).2) := by
  simp only [probe, StateT.run_bind]
  rcases (bus.readOneOf slave temperatureRegister d.timeout probeOrder .timeout).run b with
    ⟨_ | ⟨f, w⟩, b₁⟩ <;> rfl

/-- Over every bus, a probe and a read of the transmitter make the same scan of the temperature
register, input registers first, stopping at the first read that got a word. The probe then
reports that read's function and reads nothing more. The read fails, reading nothing more, when no
read got a word; otherwise it reads the humidity register once with that function and succeeds
with the temperature and whatever humidity that read gave. -/
theorem read_and_probe_share_scan (slave : UInt8) (l : Traced β) :
    ∃ qs hit, ScanLog RegisterRead.givesWord (temperatureKeys slave) qs hit ∧
      ((d.probe bus.traced slave).run l).1 = hit.map (·.function.value) ∧
      ((d.probe bus.traced slave).run l).2.calls = l.calls ++ qs.map BusCall.read ∧
      ∃ rs r, ClimateRead slave qs hit rs r ∧
        ((d.read bus.traced slave).run l).1 = r ∧
        ((d.read bus.traced slave).run l).2.calls = l.calls ++ rs.map BusCall.read := by
  obtain ⟨qs, hit, hscan, hcalls, hres⟩ :=
    bus.readOneOf_traced slave temperatureRegister d.timeout probeOrder .timeout l
  rcases hr : (bus.traced.readOneOf slave temperatureRegister d.timeout probeOrder .timeout).run l
    with ⟨res, l₁⟩
  rw [hr] at hcalls hres
  dsimp only at hcalls hres
  subst hres
  cases hit with
  | none =>
    have hread : (d.read bus.traced slave).run l = (.error (lastFailure qs .timeout), l₁) := by
      simp only [read, traced_run_bind, hr]
      rfl
    refine ⟨qs, none, hscan, by rw [probe_run, hr]; rfl, by rw [probe_run, hr]; exact hcalls,
      qs, _, .noTemperature, by rw [hread], by rw [hread]; exact hcalls⟩
  | some q =>
    obtain ⟨w, hw⟩ := RegisterRead.wordResult_of_givesWord hscan.hit_eq_true
    have hfound : q.wordResult.map (q.function, ·) = .ok (q.function, w) := by
      rw [hw]
      rfl
    have hprobe : ((d.probe bus.traced slave).run l).1 = some q.function.value := by
      rw [probe_run, hr]
      simp only [Option.elim, hfound]
      rfl
    simp only [read, traced_run_bind, hr, Option.elim, hfound, Registers.traced_read_run]
    generalize ((bus.read slave q.function humidityRegister 1 d.timeout).run l₁.inner).1 = a
    refine ⟨qs, some q, hscan, hprobe, by rw [probe_run, hr]; exact hcalls,
      qs ++ [⟨slave, q.function, humidityRegister, 1, a⟩], _, .answered hw rfl, ?_, ?_⟩
    · rcases a with e | _ | ⟨h, hs⟩ <;> rfl
    · rw [List.map_append, ← List.append_assoc, ← hcalls]
      rcases a with e | _ | ⟨h, hs⟩ <;> rfl

end ThermoHygro

end RtuBus
