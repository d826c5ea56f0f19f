import RtuBus.Registers

/-! # A bus that records its calls

A bus whose state carries every call made on it, reads and writes in the order they were made,
each with what the bus answered (`Registers.traced`), turns what a driver does on the bus into a
list, whatever the bus answers. A driver that reads a list of keys in order and stops at the
first read it accepts leaves a `ScanLog`: one read per key tried, and the read it stopped at,
which is the first accepted read of the list (`ScanLog.find?_eq`).
-/

namespace RtuBus

/-- What a read asks for: slave, read function, first register and number of registers. -/
abbrev ReadKey := UInt8 × FunctionCode × UInt16 × UInt16

/-- A read made on a bus, with what the bus answered. -/
structure RegisterRead where
  slave : UInt8
  function : FunctionCode
  start : UInt16
  count : UInt16
  answer : Except BusError (List UInt16)

namespace RegisterRead

def key (q : RegisterRead) : ReadKey :=
  (q.slave, q.function, q.start, q.count)

/-- Whether the read got at least one word. -/
def givesWord (q : RegisterRead) : Bool :=
  match q.answer with
  | .ok (_ :: _) => true
  | _ => false

/-- Whether the read was of three registers and got three words. -/
def givesBlock (q : RegisterRead) : Bool :=
  q.count == 3 &&
    match q.answer with
    | .ok ws => ws.length == 3
    | .error _ => false

end RegisterRead

/-- A call made on a bus, with what the bus answered. -/
inductive BusCall where
  | read (q : RegisterRead)
  | write (slave : UInt8) (register value : UInt16) (answer : Except BusError Unit)

namespace BusCall

/-- The reads among some calls, in order. -/
def reads (cs : List BusCall) : List RegisterRead :=
  cs.filterMap fun
    | read q => some q
    | write .. => none

@[simp] theorem reads_map_read (qs : List RegisterRead) : reads (qs.map read) = qs := by
  induction qs with
  | nil => rfl
  | cons q qs ih => exact congrArg (q :: ·) ih

end BusCall

/-- A bus's state with the calls made on it so far, oldest first. -/
structure Traced (β : Type) where
  inner : β
  calls : List BusCall := []

namespace Registers

variable {β : Type} (bus : Registers (StateM β))

/-- The bus that records every call made on `bus`, read or write, with its answer. -/
def traced : Registers (StateM (Traced β)) where
  read slave f start count t := modifyGet fun l =>
    let r := (bus.read slave f start count t).run l.inner
    (r.1, ⟨r.2, l.calls ++ [.read ⟨slave, f, start, count, r.1⟩]⟩)
  write slave register value t := modifyGet fun l =>
    let r := (bus.write slave register value t).run l.inner
    (r.1, ⟨r.2, l.calls ++ [.write slave register value r.1]⟩)

theorem traced_read_run (slave : UInt8) (f : FunctionCode) (start count : UInt16) (t : Nat)
    (l : Traced β) :
    (bus.traced.read slave f start count t).run l =
      (((bus.read slave f start count t).run l.inner).1,
        ⟨((bus.read slave f start count t).run l.inner).2,
          l.calls ++ [.read
            ⟨slave, f, start, count, ((bus.read slave f start count t).run l.inner).1⟩]⟩) :=
  rfl

theorem traced_write_run (slave : UInt8) (register value : UInt16) (t : Nat) (l : Traced β) :
    (bus.traced.write slave register value t).run l =
      (((bus.write slave register value t).run l.inner).1,
        ⟨((bus.write slave register value t).run l.inner).2,
          l.calls ++
            [.write slave register value ((bus.write slave register value t).run l.inner).1]⟩) :=
  rfl

end Registers

theorem traced_run_bind {β α γ : Type} (x : StateM (Traced β) α) (f : α → StateM (Traced β) γ)
    (l : Traced β) : (x >>= f).run l = (f (x.run l).1).run (x.run l).2 :=
  rfl

/-! ## Scans that stop at the first accepted read -/

/-- A scan of `keys` in order that stops at the first read `hit` accepts: the reads made, one
per key tried, and the read it stopped at, if any. -/
inductive ScanLog (hit : RegisterRead → Bool) :
    List ReadKey → List RegisterRead → Option RegisterRead → Prop
  | done : ScanLog hit [] [] none
  | found {k : ReadKey} {ks : List ReadKey} {q : RegisterRead} (hk : q.key = k)
      (hq : hit q = true) : ScanLog hit (k :: ks) [q] (some q)
  | missed {k : ReadKey} {ks : List ReadKey} {q : RegisterRead} {qs : List RegisterRead}
      {r : Option RegisterRead} (hk : q.key = k) (hq : hit q = false) (h : ScanLog hit ks qs r) :
      ScanLog hit (k :: ks) (q :: qs) r

namespace ScanLog

variable {hit : RegisterRead → Bool} {ks ks₁ ks₂ : List ReadKey}
  {qs qs₁ qs₂ : List RegisterRead}
  {r : Option RegisterRead} {q : RegisterRead}

theorem find?_eq (h : ScanLog hit ks qs r) : qs.find? hit = r := by
  induction h with
  | done => rfl
  | found _ hq => simp [hq]
  | missed _ hq _ ih => simp [hq, ih]

theorem key_mem (h : ScanLog hit ks qs (some q)) : q.key ∈ ks := by
  generalize hr : some q = r at h
  induction h with
  | done => cases hr
  | found hk _ =>
    cases hr
    simp [hk]
  | missed _ _ _ ih => exact List.mem_cons_of_mem _ (ih hr)

theorem append (h₁ : ScanLog hit ks₁ qs₁ none) (h₂ : ScanLog hit ks₂ qs₂ r) :
    ScanLog hit (ks₁ ++ ks₂) (qs₁ ++ qs₂) r := by
  generalize hn : (none : Option RegisterRead) = n at h₁
  induction h₁ with
  | done => exact h₂
  | found _ _ => cases hn
  | missed hk hq _ ih => exact .missed hk hq (ih hn)

theorem extend (h : ScanLog hit ks qs (some q)) (rest : List ReadKey) :
    ScanLog hit (ks ++ rest) qs (some q) := by
  generalize hr : some q = r at h
  induction h with
  | done => cases hr
  | found hk hq => exact .found hk hq
  | missed hk hq _ ih => exact .missed hk hq (ih hr)

end ScanLog

end RtuBus
