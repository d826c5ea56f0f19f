import RtuBus.Proofs.Device.MeterScans

/-! # What an energy meter sends

On a bus that records its calls (`Registers.traced`), the calls an energy meter driver makes and
what it gives back, for every answer of the bus:

* reading all values (`read_follows_phase_block`, spelled out by `MeterReading`) scans the phase
  block with the functions `blockCandidates` gives (the pinned one, else holding registers first
  when detecting), and fails with the error of the last attempt, reading nothing more and pinning
  nothing, when no function gives three words. Otherwise it pins the function that did, reads the
  four single registers with it in order, stops at the first that gives no word, and succeeds
  exactly when all four gave one;
* changing an address (`changeAddress_keeps_settings_byte`, spelled out by `AddressChange`)
  refuses a new address that is not unicast without a call, and otherwise reads the communication
  register once and, only when that gives a word, writes it back once with the new address as its
  high byte and its own low byte, returning what the write returned.
-/

namespace RtuBus

namespace EnergyMeter

/-- The single registers are read with the function pinned last for the slave. -/
@[simp] theorem functionFor_pin (d : EnergyMeter) (slave : UInt8) (f : FunctionCode) :
    (d.pin slave f).functionFor slave = f := by
  simp [functionFor]

theorem blockCandidates_ne_nil (d : EnergyMeter) (slave : UInt8) :
    d.blockCandidates slave ≠ [] := by
  unfold blockCandidates
  cases d.pins slave with
  | some f => simp
  | none => cases d.map.function <;> simp [FunctionSelect.blockOrder, FunctionSelect.candidates]

def basicKeys (map : EnergyMap) (slave : UInt8) (f : FunctionCode) : List ReadKey :=
  map.basic.map fun r => (slave, f, r, 1)

variable {β : Type} (bus : Registers (StateM β))

/-- A read of all values of `slave` by the driver `d`, as the reads it makes, its result and the
driver after it. The phase block is scanned with the functions `d.blockCandidates slave` until one
read gets three words; only then are the four single registers read, all with that read's
function, until one gives no word. -/
inductive MeterReading (d : EnergyMeter) (slave : UInt8) :
    List RegisterRead → Except BusError EnergyValues → EnergyMeter → Prop
  /-- No function gave the phase block three words: the error of the last attempt, no other read,
  and the pins as they were. -/
  | blockFailed {qs : List RegisterRead} {q : RegisterRead}
      (hscan : ScanLog RegisterRead.givesBlock
        (blockKeys d.map slave (d.blockCandidates slave)) qs none)
      (hlast : qs.getLast? = some q) :
      MeterReading d slave qs (.error q.blockError) d
  /-- The phase block answered function `q.function`, which is pinned; the single registers are
  read with it, and one of them gave no word, whose error is the result. -/
  | basicFailed {qs rs : List RegisterRead} {q r : RegisterRead} {e : BusError}
      (hscan : ScanLog RegisterRead.givesBlock
        (blockKeys d.map slave (d.blockCandidates slave)) qs (some q))
      (hbasic : ScanLog (fun r => !r.givesWord) (basicKeys d.map slave q.function) rs (some r))
      (he : r.wordResult = .error e) :
      MeterReading d slave (qs ++ rs) (.error e) (d.pin slave q.function)
  /-- The phase block gave three words to function `q.function`, which is pinned, and the four
  single registers read with it each gave a word: the values are made of those words. -/
  | answered {qs rs : List RegisterRead} {q : RegisterRead} {a b c v i p w : UInt16}
      (hscan : ScanLog RegisterRead.givesBlock
        (blockKeys d.map slave (d.blockCandidates slave)) qs (some q))
      (hq : q.answer = .ok [a, b, c])
      (hbasic : ScanLog (fun r => !r.givesWord) (basicKeys d.map slave q.function) rs none)
      (hws : rs.mapM RegisterRead.wordResult = .ok [v, i, p, w]) :
      MeterReading d slave (qs ++ rs)
        (.ok ⟨Reading.ofWord v 10, Reading.ofWord i 100, Reading.ofWord p 10,
          Reading.ofWord w 100, (Reading.ofWord a 100, Reading.ofWord b 100, Reading.ofWord c 100)⟩)
        (d.pin slave q.function)

/-- Over every bus and from every driver, a read of a meter's values makes the reads and gives
the result and the driver that `MeterReading` says, and makes no other call. -/
theorem read_follows_phase_block (slave : UInt8) (d : EnergyMeter) (l : Traced β) :
    ∃ qs r d', MeterReading d slave qs r d' ∧
      (((read bus.traced slave).run d).run l).1 = (r, d') ∧
      (((read bus.traced slave).run d).run l).2.calls = l.calls ++ qs.map BusCall.read := by
  obtain ⟨qs, hit, hscan, hcalls, hres⟩ := readPhaseCurrents_scan bus slave d l
  simp only [read, run_bind_state]
  rcases hp : ((readPhaseCurrents bus.traced slave).run d).run l with ⟨⟨res, d₁⟩, l₁⟩
  rw [hp] at hcalls hres
  cases hit with
  | none =>
    obtain ⟨q, hq⟩ :=
      hscan.getLast?_of_none (by simpa [blockKeys] using blockCandidates_ne_nil d slave)
    simp only [Option.elim, Prod.mk.injEq] at hres
    obtain ⟨rfl, rfl⟩ := hres
    refine ⟨qs, _, _, .blockFailed hscan hq, ?_, hcalls⟩
    rw [blockFailure_of_getLast? hq]
    rfl
  | some q =>
    obtain ⟨a, b, c, hq⟩ := RegisterRead.block_of_givesBlock hscan.hit_eq_true
    simp only [Option.elim, RegisterRead.phases_of_answer hq, Prod.mk.injEq] at hres
    obtain ⟨rfl, rfl⟩ := hres
    simp only [run_bind_state, run_get_state, run_lift_state, functionFor_pin, map_pin,
      timeout_pin]
    obtain ⟨rs, hit', hscan', hcalls', hres'⟩ :=
      bus.mapM_readWord_traced slave q.function d.timeout d.map.basic l₁
    rcases hw : (d.map.basic.mapM fun r =>
        (ExceptT.mk (bus.traced.readWord slave q.function r d.timeout) :
          ExceptT BusError (StateM (Traced β)) UInt16)).run.run l₁ with ⟨words, l₂⟩
    rw [hw] at hcalls' hres'
    dsimp only at hcalls' hres'
    subst hres'
    have hcalls₂ : l₂.calls = l.calls ++ (qs ++ rs).map BusCall.read := by
      rw [hcalls', hcalls, List.map_append, List.append_assoc]
    cases hit' with
    | none =>
      obtain ⟨ws, hws, hlen⟩ := hscan'.words_of_none
      rcases ws with _ | ⟨v, _ | ⟨i, _ | ⟨p, _ | ⟨w, _ | ⟨x, ws⟩⟩⟩⟩⟩ <;>
        simp [EnergyMap.basic] at hlen
      rw [hws]
      exact ⟨qs ++ rs, _, _, .answered hscan hq hscan' hws, rfl, hcalls₂⟩
    | some r =>
      obtain ⟨e, he, hrs⟩ := hscan'.error_of_some
      rw [hrs]
      exact ⟨qs ++ rs, _, _, .basicFailed hscan hscan' he, rfl, hcalls₂⟩

/-! ## Changing an address -/

/-- The communication setting with a new address byte is the address times 256 plus the old
setting's low byte. -/
theorem toNat_mergeAddress (c : UInt16) (a : UInt8) :
    (mergeAddress c a).toNat = a.toNat * 256 + c.toNat % 256 := by
  have ha : a.toNat < 256 := a.toNat_lt
  have hlow : c.toNat &&& 255 = c.toNat % 256 := Nat.and_two_pow_sub_one_eq_mod c.toNat 8
  rw [mergeAddress, UInt16.toNat_or, UInt16.toNat_shiftLeft, UInt16.toNat_and,
    UInt8.toNat_toUInt16]
  have hhigh : a.toNat <<< 8 % 65536 = a.toNat <<< 8 :=
    Nat.mod_eq_of_lt (by rw [Nat.shiftLeft_eq]; omega)
  show a.toNat <<< 8 % 65536 ||| c.toNat &&& 255 = _
  -- the address fills the high byte and the kept settings the low one, so `|||` adds them
  rw [hhigh, hlow, ← Nat.shiftLeft_add_eq_or_of_lt (Nat.mod_lt _ (by decide)), Nat.shiftLeft_eq]

/-- The communication setting with a new address byte has that address as its high byte and the
old setting's low byte, for every setting and every address. -/
theorem mergeAddress_bytes (c : UInt16) (a : UInt8) :
    mergeAddress c a >>> 8 = a.toUInt16 ∧ mergeAddress c a &&& 0x00FF = c &&& 0x00FF := by
  have h := toNat_mergeAddress c a
  have hmask : ∀ x : Nat, x &&& 255 = x % 256 := fun x => Nat.and_two_pow_sub_one_eq_mod x 8
  constructor
  · apply UInt16.toNat_inj.1
    rw [UInt16.toNat_shiftRight, UInt8.toNat_toUInt16]
    show (mergeAddress c a).toNat >>> 8 = _
    rw [Nat.shiftRight_eq_div_pow, h]
    omega
  · apply UInt16.toNat_inj.1
    rw [UInt16.toNat_and, UInt16.toNat_and]
    show (mergeAddress c a).toNat &&& 255 = c.toNat &&& 255
    rw [hmask, hmask, h]
    omega

example : mergeAddress 0x1A25 0x07 = 0x0725 := by decide

/-- What an address change from `old` to `new`, on a meter whose register map is `map`, sends,
and its result. -/
inductive AddressChange (map : EnergyMap) (old new : UInt8) :
    List BusCall → Except BusError Unit → Prop
  /-- A new address that is not unicast is refused, and nothing is sent. -/
  | refused (hu : isUnicast new = false) :
      AddressChange map old new [] (.error .invalidArgument)
  /-- One read of the communication register of `old` with holding registers, which gave no
  word: its error, and nothing more is sent. -/
  | readFailed {q : RegisterRead} {e : BusError} (hu : isUnicast new = true)
      (hk : q.key = (old, FunctionCode.readHolding, map.commConfig, 1))
      (he : q.wordResult = .error e) :
      AddressChange map old new [.read q] (.error e)
  /-- One read of the communication register of `old` with holding registers, which gave the
  word `c`, then one write of that register at `old` with `c`'s address byte replaced; the write's
  result is the result. -/
  | written {q : RegisterRead} {c : UInt16} {r : Except BusError Unit}
      (hu : isUnicast new = true)
      (hk : q.key = (old, FunctionCode.readHolding, map.commConfig, 1))
      (hc : q.wordResult = .ok c) :
      AddressChange map old new [.read q, .write old map.commConfig (mergeAddress c new) r] r

/-- An address change makes the calls, and gives the result, that `AddressChange` says. -/
theorem changeAddress_traced (d : EnergyMeter) (old new : UInt8) (l : Traced β) :
    ∃ calls, AddressChange d.map old new calls ((d.changeAddress bus.traced old new).run l).1 ∧
      ((d.changeAddress bus.traced old new).run l).2.calls = l.calls ++ calls := by
  cases hu : isUnicast new with
  | false =>
    have hrun : (d.changeAddress bus.traced old new).run l = (.error .invalidArgument, l) := by
      simp only [changeAddress, hu]
      rfl
    rw [hrun]
    exact ⟨[], .refused hu, (List.append_nil _).symm⟩
  | true =>
    obtain ⟨q, hk, hcalls, hres⟩ :=
      bus.readWord_traced old FunctionCode.readHolding d.map.commConfig d.timeout l
    rcases hr : (bus.traced.readWord old FunctionCode.readHolding d.map.commConfig d.timeout).run l
      with ⟨w, l₁⟩
    rw [hr] at hcalls hres
    dsimp only at hcalls hres
    subst hres
    simp only [changeAddress, hu, Bool.not_true, Bool.false_eq_true, ↓reduceIte, traced_run_bind,
      hr]
    cases hc : q.wordResult with
    | error e =>
      exact ⟨[.read q], .readFailed hu hk hc, hcalls⟩
    | ok c =>
      rw [Registers.traced_write_run]
      refine ⟨[.read q, .write old d.map.commConfig (mergeAddress c new) _], .written hu hk hc,
        ?_⟩
      simp [hcalls]

/-- Over every bus and from every driver, changing the address of the meter at `old` to `new`
refuses a new address that is not unicast without a call. Otherwise it reads the communication
register of `old` once with holding registers, and only when that gives a word `c` writes the
register back once, returning what the write returned; the word written has `new` as its high
byte and keeps `c`'s low byte, the serial settings, whatever `c` is. -/
theorem changeAddress_keeps_settings_byte (d : EnergyMeter) (old new : UInt8) (l : Traced β) :
    (∃ calls, AddressChange d.map old new calls ((d.changeAddress bus.traced old new).run l).1 ∧
      ((d.changeAddress bus.traced old new).run l).2.calls = l.calls ++ calls) ∧
    ∀ c : UInt16,
      mergeAddress c new >>> 8 = new.toUInt16 ∧ mergeAddress c new &&& 0x00FF = c &&& 0x00FF :=
  ⟨changeAddress_traced bus d old new l, fun c => mergeAddress_bytes c new⟩

end EnergyMeter

end RtuBus
