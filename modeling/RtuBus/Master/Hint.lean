import RtuBus.Frame.Function
import RtuBus.Frame.Request

/-! # Remembered read functions

Some slaves answer only one of the two read functions. Once a slave has answered, the master
remembers which function worked and tries it first next time. There is one slot for every
address up to `maxSlave`; a slot holding zero is empty, and addresses past the last slot are
neither remembered nor found.
-/

namespace RtuBus

/-- The read function that last worked for each slave address. -/
structure HintCache where
  /-- The remembered function code per address, zero for none. -/
  codes : UInt8 → UInt8

namespace HintCache

def empty : HintCache := ⟨fun _ => 0⟩

instance : Inhabited HintCache := ⟨empty⟩

def get (c : HintCache) (slave : UInt8) : Option FunctionCode :=
  if slave ≤ maxSlave ∧ c.codes slave ≠ 0 then some ⟨c.codes slave⟩ else none

/-- Remembers `f` for `slave`; an address past the last slot is ignored, and the code zero
empties the slot. -/
def set (c : HintCache) (slave : UInt8) (f : FunctionCode) : HintCache :=
  if slave ≤ maxSlave then ⟨fun s => if s = slave then f.value else c.codes s⟩ else c

theorem get_empty (slave : UInt8) : empty.get slave = none := by
  simp [get, empty]

theorem get_set_self (c : HintCache) (slave : UInt8) (f : FunctionCode) (h : slave ≤ maxSlave)
    (hf : f.value ≠ 0) : (c.set slave f).get slave = some f := by
  simp [get, set, h, hf]

theorem get_set_of_ne (c : HintCache) (slave other : UInt8) (f : FunctionCode)
    (h : other ≠ slave) : (c.set slave f).get other = c.get other := by
  unfold set
  split <;> simp [get, h]

theorem set_of_gt (c : HintCache) (slave : UInt8) (f : FunctionCode) (h : ¬ slave ≤ maxSlave) :
    c.set slave f = c := by
  simp [set, h]

end HintCache

end RtuBus
