import RtuBus.Error
import RtuBus.Crc

/-! # Serial lines

A half-duplex serial line as the master drives it. The line is opened once, switched to
transmit before a frame is sent and back to receive afterwards, and then read for a response
of at most a given length. Each call may fail with an `IoKind`.

A line is any state `σ` with these five calls as state transformers, so a property proved for
every `Line σ` holds for every behaviour of the line: calls that fail at random, lines that
record what they were asked, or a simulated bus.
-/

namespace RtuBus

/-- The calls a master makes on a serial line whose state is `σ`. Timeouts are in
milliseconds. -/
structure Line (σ : Type) where
  connect : StateM σ (Except IoKind Unit)
  disconnect : StateM σ (Except IoKind Unit)
  setTransmit : Bool → StateM σ (Except IoKind Unit)
  send : Bytes → Nat → StateM σ (Except IoKind Unit)
  receive : (maxLen : Nat) → Nat → StateM σ (Except IoKind Bytes)

end RtuBus
