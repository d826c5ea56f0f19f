import RtuBus.Line
import RtuBus.Registers
import RtuBus.Frame.Codec
import RtuBus.Master.Hint

/-! # The bus master

A master owns a serial line. `init` opens the line and switches it to receive; `deinit`
closes it. A transaction switches the line to transmit, sends one request frame, switches back
to receive (also when sending failed) and then waits for the response. No response, an empty
one, or a failed receive is a timeout. Reads and writes build the request frame, run the
transaction and check the response.

A master's operations are state-monad programs over the master and its line; a failure keeps
the state reached, as a failed call on a device leaves the line where it is.
-/

namespace RtuBus

/-- A master on a line whose state is `σ`. -/
structure Master (σ : Type) where
  line : σ
  /-- Whether the line was opened and has not been closed since. -/
  initialized : Bool := false
  hints : HintCache := HintCache.empty

abbrev MasterM (σ : Type) := ExceptT BusError (StateM (Master σ))

namespace Master

variable {σ α : Type} (L : Line σ)

def onLine (x : StateM σ α) : StateM (Master σ) α :=
  modifyGet fun m => let r := x.run m.line; (r.1, { m with line := r.2 })

def call (x : StateM σ (Except IoKind α)) : MasterM σ α :=
  ExceptT.mk do return (← onLine x).mapError .transport

def check (r : Except BusError α) : MasterM σ α :=
  ExceptT.mk (pure r)

/-- Opens the line and switches it to receive, unless the master is initialized. -/
def init : MasterM σ Unit := do
  if (← get).initialized then return
  call (L.connect)
  call (L.setTransmit false)
  modify fun m => { m with initialized := true }

/-- Closes the line if the master is initialized. The master counts as closed even when
closing fails. -/
def deinit : MasterM σ Unit := do
  if !(← get).initialized then return
  modify fun m => { m with initialized := false }
  call L.disconnect

/-- Sends a request frame and receives at most `responseLen` bytes. -/
def transact (frame : RequestFrame) (responseLen timeout : Nat) : MasterM σ Bytes := do
  if !(← get).initialized then throw .notInitialized
  call (L.setTransmit true)
  let sent ← ExceptT.lift (onLine (L.send frame.toBytes timeout))
  let released ← ExceptT.lift (onLine (L.setTransmit false))
  check (sent.mapError .transport)
  check (released.mapError .transport)
  match ← ExceptT.lift (onLine (L.receive responseLen timeout)) with
  | .ok bytes => if bytes.isEmpty then throw .timeout else pure bytes
  | .error _ => throw .timeout

/-- Reads `count` registers from `start` of a slave with a read function. -/
def read (slave : UInt8) (f : FunctionCode) (start count : UInt16) (timeout : Nat) :
    MasterM σ (List UInt16) := do
  let request ← check (Request.read? f start count)
  let frame ← check (request.encode? slave)
  let response ← transact L frame request.responseLen timeout
  check (parseReadResponse response slave f count)

def readHolding (slave : UInt8) (start count : UInt16) (timeout : Nat) :
    MasterM σ (List UInt16) :=
  read L slave FunctionCode.readHolding start count timeout

def readInput (slave : UInt8) (start count : UInt16) (timeout : Nat) :
    MasterM σ (List UInt16) :=
  read L slave FunctionCode.readInput start count timeout

/-- Writes one holding register and checks the echo. -/
def writeSingle (slave : UInt8) (register value : UInt16) (timeout : Nat) : MasterM σ Unit := do
  let frame ← check (buildWriteSingle? slave register value)
  let response ← transact L frame 8 timeout
  check (parseWriteSingleResponse response frame)

/-- The master as a bus for device drivers. -/
def registers : Registers (StateM (Master σ)) where
  read slave f start count timeout := (read L slave f start count timeout).run
  write slave register value timeout := (writeSingle L slave register value timeout).run

end Master

end RtuBus
