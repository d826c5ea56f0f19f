import RtuBus.Proofs.Master.Record
import RtuBus.Sim.Bus

/-! # The order of the calls on the line

A half-duplex line carries one direction at a time, so the master drives it in a fixed order
(`Wire`): a frame is sent right after a successful switch to transmit and right before the
switch back to receive, also when sending fails; a response is received right after a frame that
went out and a successful switch back; and a line that opens is switched to receive at once.
Every block keeps that order, so every run does, whatever the line answers (`line_protocol`).
Each operation also waits for exactly the response length its check accepts, sends at most the
frame of each of its requests, and makes no call when its arguments are refused.
-/

namespace RtuBus

/-- The order a half-duplex line is driven in. -/
structure Wire (calls : List LineCall) : Prop where
  /-- A frame is sent just after a successful switch to transmit. -/
  send_after : ∀ i frame t r, calls[i]? = some (.send frame t r) →
    ∃ j, i = j + 1 ∧ calls[j]? = some (.setTransmit true (.ok ()))
  /-- A frame is followed at once by the switch back to receive, whatever sending returned. -/
  send_before : ∀ i frame t r, calls[i]? = some (.send frame t r) →
    ∃ r', calls[i + 1]? = some (.setTransmit false r')
  /-- A response is received just after a frame that went out and a successful switch back. -/
  receive_after : ∀ i n t r, calls[i]? = some (.receive n t r) →
    ∃ j frame t', i = j + 2 ∧ calls[j]? = some (.send frame t' (.ok ())) ∧
      calls[j + 1]? = some (.setTransmit false (.ok ()))
  /-- A line that opens is switched to receive next. -/
  connect_parks : ∀ i, calls[i]? = some (.connect (.ok ())) →
    ∃ r, calls[i + 1]? = some (.setTransmit false r)

namespace Wire

theorem nil : Wire [] :=
  ⟨fun _ _ _ _ h => (by cases h), fun _ _ _ _ h => (by cases h), fun _ _ _ _ h => (by cases h),
    fun _ h => (by cases h)⟩

variable {xs ys : List LineCall}

/-- The order is kept when one correctly driven stretch of calls follows another: every
neighbour a call needs lies in its own stretch. -/
theorem append (hx : Wire xs) (hy : Wire ys) : Wire (xs ++ ys) where
  send_after i frame t r h := by
    rcases getElem?_append_cases h with h | ⟨k, rfl, hk⟩
    · obtain ⟨j, rfl, hj⟩ := hx.send_after _ _ _ _ h
      exact ⟨j, rfl, getElem?_append_of_left hj⟩
    · obtain ⟨j, rfl, hj⟩ := hy.send_after _ _ _ _ hk
      exact ⟨xs.length + j, rfl, getElem?_append_of_right hj⟩
  send_before i frame t r h := by
    rcases getElem?_append_cases h with h | ⟨k, rfl, hk⟩
    · obtain ⟨r', hr⟩ := hx.send_before _ _ _ _ h
      exact ⟨r', getElem?_append_of_left hr⟩
    · obtain ⟨r', hr⟩ := hy.send_before _ _ _ _ hk
      exact ⟨r', getElem?_append_of_right hr⟩
  receive_after i n t r h := by
    rcases getElem?_append_cases h with h | ⟨k, rfl, hk⟩
    · obtain ⟨j, frame, t', rfl, hs, hf⟩ := hx.receive_after _ _ _ _ h
      exact ⟨j, frame, t', rfl, getElem?_append_of_left hs, getElem?_append_of_left hf⟩
    · obtain ⟨j, frame, t', rfl, hs, hf⟩ := hy.receive_after _ _ _ _ hk
      exact ⟨xs.length + j, frame, t', rfl, getElem?_append_of_right hs,
        getElem?_append_of_right hf⟩
  connect_parks i h := by
    rcases getElem?_append_cases h with h | ⟨k, rfl, hk⟩
    · obtain ⟨r, hr⟩ := hx.connect_parks _ h
      exact ⟨r, getElem?_append_of_left hr⟩
    · obtain ⟨r, hr⟩ := hy.connect_parks _ hk
      exact ⟨r, getElem?_append_of_right hr⟩

end Wire

/-! ## Every block keeps the order -/

theorem Opening.wire {b b' : Bool} {cs : List LineCall} {r : Except BusError Unit}
    (h : Opening b cs b' r) : Wire cs := by
  cases h with
  | already => exact .nil
  | refused k => constructor <;> intro i <;> rcases i with _ | i <;> simp
  | opened r => constructor <;> intro i <;> rcases i with _ | _ | i <;> simp

theorem Closing.wire {b : Bool} {cs : List LineCall} {r : Except BusError Unit}
    (h : Closing b cs r) : Wire cs := by
  cases h with
  | idle => exact .nil
  | closed r => constructor <;> intro i <;> rcases i with _ | i <;> simp

theorem Exchange.wire {frame : Bytes} {n t : Nat} {b : Bool} {cs : List LineCall}
    {r : Except BusError Bytes} (h : Exchange frame n t b cs r) : Wire cs := by
  cases h with
  | refused => exact .nil
  | assertFailed k => constructor <;> intro i <;> rcases i with _ | i <;> simp
  | sendFailed k r => constructor <;> intro i <;> rcases i with _ | _ | _ | i <;> simp
  | releaseFailed k => constructor <;> intro i <;> rcases i with _ | _ | _ | i <;> simp
  | received r => constructor <;> intro i <;> rcases i with _ | _ | _ | _ | i <;> simp

theorem Exchange.receive_len {frame : Bytes} {n t : Nat} {b : Bool} {cs : List LineCall}
    {r : Except BusError Bytes} (h : Exchange frame n t b cs r) :
    ∀ n' t' r', LineCall.receive n' t' r' ∈ cs → n' = n := by
  intro n' t' r' hmem
  cases h <;> simp at hmem
  exact hmem.1

namespace Blocks

variable {len : Nat → Prop} {b b' : Bool} {cs : List LineCall}

theorem wire (h : Blocks len b cs b') : Wire cs := by
  induction h with
  | nil => exact .nil
  | opening ho _ ih => exact ho.wire.append ih
  | closing hc _ ih => exact hc.wire.append ih
  | exchange he _ _ ih => exact he.wire.append ih

/-- Every response is received with a length the transactions' lengths allow. -/
theorem receive_len (h : Blocks len b cs b') : ∀ n t r, LineCall.receive n t r ∈ cs → len n := by
  induction h with
  | nil => simp
  | opening ho _ ih =>
    intro n t r hmem
    rcases List.mem_append.mp hmem with hmem | hmem
    · cases ho <;> simp at hmem
    · exact ih n t r hmem
  | closing hc _ ih =>
    intro n t r hmem
    rcases List.mem_append.mp hmem with hmem | hmem
    · cases hc <;> simp at hmem
    · exact ih n t r hmem
  | exchange he hn _ ih =>
    intro n t r hmem
    rcases List.mem_append.mp hmem with hmem | hmem
    · exact he.receive_len n t r hmem ▸ hn
    · exact ih n t r hmem

end Blocks

/-! ## The length a check accepts -/

/-- A read response is accepted only when it is complete: five bytes and two per register. -/
theorem parseReadResponse_length {adu : Bytes} {slave : UInt8} {f : FunctionCode}
    {count : UInt16} {ws : List UInt16} (h : parseReadResponse adu slave f count = .ok ws) :
    adu.length = 5 + count.toNat * 2 := by
  unfold parseReadResponse at h
  dsimp only at h
  by_cases hlen : adu.length = 5 + count.toNat * 2
  · exact hlen
  · split at h
    · cases h
    · split at h <;> cases h

/-- A write response is accepted only when it has the eight bytes of the echo. -/
theorem parseWriteSingleResponse_length {adu : Bytes} {request : RequestFrame}
    (h : parseWriteSingleResponse adu request = .ok ()) : adu.length = 8 := by
  unfold parseWriteSingleResponse at h
  dsimp only at h
  by_cases hlen : adu.length = 8
  · exact hlen
  · rw [if_pos hlen] at h
    split at h <;> cases h

namespace Master

/-- Whether the checks of an operation accept `adu` as the response to one of its requests. -/
def Op.accepts (hints : HintCache) : Op → Bytes → Prop
  | .init, _ | .deinit, _ => False
  | .read s f _ n _, adu => ∃ ws, parseReadResponse adu s f n = .ok ws
  | .readHolding s _ n _, adu => ∃ ws, parseReadResponse adu s .readHolding n = .ok ws
  | .readInput s _ n _, adu => ∃ ws, parseReadResponse adu s .readInput n = .ok ws
  | .writeSingle s r v _, adu => ∃ frame, buildWriteSingle? s r v = .ok frame ∧
      parseWriteSingleResponse adu frame = .ok ()
  | .ping s _, adu => ∃ c ∈ pingCandidates hints s, ∃ ws, parseReadResponse adu s c.1 1 = .ok ws

/-- The response length an operation waits for is the only one its checks accept. -/
theorem Op.accepts_length {hints : HintCache} {op : Op} {adu : Bytes}
    (h : op.accepts hints adu) : adu.length = op.responseLen := by
  cases op with
  | init | deinit => exact h.elim
  | read s f a n t =>
    obtain ⟨ws, h⟩ := h
    exact parseReadResponse_length h
  | readHolding s a n t =>
    obtain ⟨ws, h⟩ := h
    exact parseReadResponse_length h
  | readInput s a n t =>
    obtain ⟨ws, h⟩ := h
    exact parseReadResponse_length h
  | writeSingle s r v t =>
    obtain ⟨frame, -, h⟩ := h
    exact parseWriteSingleResponse_length h
  | ping s t =>
    obtain ⟨c, -, ws, h⟩ := h
    exact parseReadResponse_length h

variable {σ : Type} (L : Line σ)

/-- Over every run of operations on a line that behaves in any way, the calls keep the order of
a half-duplex line; and every operation, from every master, receives only with the length its
checks accept, sends at most the frame of each of its requests in their order, makes no call
when it refuses its arguments, and, as a read or a write, makes no call when it finds the master
not initialized. -/
theorem line_protocol (ops : List Op) (m : Master (Recorded σ)) (hm : Wire m.line.calls) :
    Wire ((runOps L.recorded ops).run m).2.line.calls ∧
    ∀ (op : Op) (m' : Master (Recorded σ)), ∃ cs,
      ((op.run L.recorded).run.run m').2.line.calls = m'.line.calls ++ cs ∧
      Wire cs ∧
      (∀ n t r, LineCall.receive n t r ∈ cs → ∀ adu, op.accepts m'.hints adu → adu.length = n) ∧
      (sentFrames cs).Sublist (op.frames m'.hints) ∧
      (((op.run L.recorded).run.run m').1 = .error .invalidArgument → cs = []) ∧
      (op.isTransfer = true →
        ((op.run L.recorded).run.run m').1 = .error .notInitialized → cs = []) := by
  refine ⟨?_, fun op m' => ?_⟩
  · obtain ⟨cs, hcalls, hblocks⟩ := runOps_blocks L ops m
    rw [hcalls]
    exact hm.append hblocks.wire
  · obtain ⟨cs, h, hinvalid, hnot⟩ := Op.recorded L op m'
    refine ⟨cs, h.calls_eq, h.blocks.wire, fun n t r hmem adu hadu => ?_, h.sent, hinvalid, hnot⟩
    rw [Op.accepts_length hadu]
    exact (h.blocks.receive_len n t r hmem).symm

end Master

theorem line_protocol_simulated :
    Wire ([] : List LineCall) ∧
    (Wire ((Master.runOps SimBus.line.recorded [.init, .readHolding 1 0 2 100, .ping 1 100]).run
        { line := { inner := {} } }).2.line.calls ∧
      ∀ (op : Master.Op) (m' : Master (Recorded SimBus)), ∃ cs,
        ((op.run SimBus.line.recorded).run.run m').2.line.calls = m'.line.calls ++ cs ∧
        Wire cs ∧
        (∀ n t r, LineCall.receive n t r ∈ cs → ∀ adu, op.accepts m'.hints adu →
          adu.length = n) ∧
        (sentFrames cs).Sublist (op.frames m'.hints) ∧
        (((op.run SimBus.line.recorded).run.run m').1 = .error .invalidArgument → cs = []) ∧
        (op.isTransfer = true →
          ((op.run SimBus.line.recorded).run.run m').1 = .error .notInitialized → cs = [])) :=
  ⟨Wire.nil, Master.line_protocol SimBus.line [.init, .readHolding 1 0 2 100, .ping 1 100]
    { line := { inner := {} } } Wire.nil⟩

end RtuBus
