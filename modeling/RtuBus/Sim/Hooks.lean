import RtuBus.Session.Arbiter

/-! # Counting hooks

Bus hooks that count how often each was called. Preparing can be made to fail with a
transport error and idling with a timeout.
-/

namespace RtuBus

/-- The state of counting hooks. -/
structure CountingHooks where
  failPrepare : Bool := false
  failIdle : Bool := false
  prepared : Nat := 0
  flushed : Nat := 0
  idled : Nat := 0
  deriving Repr, DecidableEq, Inhabited

namespace CountingHooks

/-- The hooks. -/
def hooks : Hooks CountingHooks where
  prepare := modifyGet fun h =>
    (if h.failPrepare then .error (.transport .other) else .ok (),
      { h with prepared := h.prepared + 1 })
  flush := modify fun h => { h with flushed := h.flushed + 1 }
  idle := modifyGet fun h =>
    (if h.failIdle then .error .timeout else .ok (), { h with idled := h.idled + 1 })

end CountingHooks

end RtuBus
