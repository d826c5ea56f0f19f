import RtuBus.Frame.Codec
import Mathlib.RingTheory.AdjoinRoot
import Mathlib.Tactic.LinearCombination
import Mathlib.Tactic.ComputeDegree
import Mathlib.Algebra.Field.ZMod

/-! # The check word as a polynomial residue

The CRC register read as a polynomial over GF(2): bit `j` of the register is the coefficient of
`x^(15 - j)`, so the bit that leaves the register first has the highest degree, as on the wire.
In the ring `GF(2)[x] / (x^16 + x^15 + x^2 + 1)` one bit step of the register is a
multiplication by `x` (`residue_bitStep`), and after a byte string `e` the register holds
`x^(8·|e|) · r + x^16 · e(x)`, where `e(x)` is the polynomial of the bits of `e` in wire order
(`residue_foldl`). Sixteen bits are a multiple of the generator only when they are all zero, so
two registers are equal exactly when their residues are (`residue_inj`).
-/

namespace RtuBus

/-- The lowest `w` bits of `n`, least significant first. -/
def bitsOf (n w : Nat) : List Bool :=
  (List.range w).map n.testBit

@[simp] theorem length_bitsOf (n w : Nat) : (bitsOf n w).length = w := by
  simp [bitsOf]

@[simp] theorem getElem_bitsOf (n w i : Nat) (h : i < (bitsOf n w).length) :
    (bitsOf n w)[i] = n.testBit i := by
  simp [bitsOf]

theorem bitsOf_add (n a b : Nat) : bitsOf n (a + b) = bitsOf n a ++ bitsOf (n >>> a) b := by
  apply List.ext_getElem (by simp)
  intro i h1 h2
  simp only [getElem_bitsOf, List.getElem_append, length_bitsOf, Nat.testBit_shiftRight]
  split
  · rfl
  · congr 1
    omega

theorem bitsOf_xor (n m w : Nat) :
    bitsOf (n ^^^ m) w = List.zipWith (· ^^ ·) (bitsOf n w) (bitsOf m w) := by
  apply List.ext_getElem (by simp)
  intro i h1 h2
  simp [Nat.testBit_xor]

theorem bitsOf_mod_two_pow {n k w : Nat} (h : w ≤ k) : bitsOf (n % 2 ^ k) w = bitsOf n w := by
  apply List.ext_getElem (by simp)
  intro i h1 h2
  simp only [length_bitsOf] at h1
  simp [Nat.testBit_mod_two_pow]
  omega

theorem bitsOf_eq_replicate {n w : Nat} (hn : n < 2 ^ w) (h : bitsOf n w = List.replicate w false) :
    n = 0 := by
  apply Nat.eq_of_testBit_eq
  intro i
  by_cases hi : i < w
  · have := congrArg (fun l => l[i]?) h
    simpa [bitsOf, hi] using this
  · have hle : 2 ^ w ≤ 2 ^ i := Nat.pow_le_pow_right (by omega) (by omega)
    simp only [Nat.zero_testBit]
    exact Nat.testBit_lt_two_pow (Nat.lt_of_lt_of_le hn hle)

namespace Crc

/-- The sixteen bits of the register, bit 0 first: the order in which they leave it. -/
def registerBits (r : UInt16) : List Bool :=
  bitsOf r.toNat 16

def byteBits (b : UInt8) : List Bool :=
  bitsOf b.toNat 8

/-- The bits of a byte string in wire order: byte by byte, least significant bit first. -/
def wireBits (e : Bytes) : List Bool :=
  e.flatMap byteBits

@[simp] theorem length_registerBits (r : UInt16) : (registerBits r).length = 16 := by
  simp [registerBits]

@[simp] theorem length_byteBits (b : UInt8) : (byteBits b).length = 8 := by
  simp [byteBits]

@[simp] theorem length_wireBits (e : Bytes) : (wireBits e).length = 8 * e.length := by
  induction e with
  | nil => rfl
  | cons b e ih =>
    simp only [wireBits, List.flatMap_cons, List.length_append, length_byteBits] at ih ⊢
    rw [ih, List.length_cons]
    omega

theorem registerBits_eq_wireBits_trailer (r : UInt16) : registerBits r = wireBits (trailer r) := by
  simp only [registerBits, wireBits, trailer, List.flatMap_cons, List.flatMap_nil,
    List.append_nil, byteBits, UInt16.toNat_toUInt8, UInt16.toNat_shiftRight]
  rw [show (16 : Nat) = 8 + 8 from rfl, bitsOf_add,
    bitsOf_mod_two_pow (Nat.le_refl 8), bitsOf_mod_two_pow (Nat.le_refl 8)]
  rfl

theorem registerBits_shiftRight_one (r : UInt16) :
    registerBits (r >>> 1) = (registerBits r).tail ++ [false] := by
  have hr := r.toNat_lt
  have hlow := bitsOf_add r.toNat 1 16
  have hhigh := bitsOf_add r.toNat 16 1
  have hlast : bitsOf (r.toNat >>> 16) 1 = [false] := by
    simp [bitsOf, Nat.shiftRight_eq_div_pow, Nat.div_eq_of_lt hr]
  have hshift : bitsOf (r.toNat >>> 1) 16 = (bitsOf r.toNat 17).tail := by
    rw [hlow]
    rfl
  simp only [registerBits, UInt16.toNat_shiftRight]
  rw [show (1 : UInt16).toNat % 16 = 1 from rfl, hshift, hhigh, hlast, List.tail_append_of_ne_nil]
  simp [← List.length_pos_iff]

theorem registerBits_xor (a b : UInt16) :
    registerBits (a ^^^ b) = List.zipWith (· ^^ ·) (registerBits a) (registerBits b) := by
  simp [registerBits, bitsOf_xor]

theorem byteBits_xor (a b : UInt8) :
    byteBits (a ^^^ b) = List.zipWith (· ^^ ·) (byteBits a) (byteBits b) := by
  simp [byteBits, bitsOf_xor]

theorem registerBits_toUInt16 (b : UInt8) :
    registerBits b.toUInt16 = byteBits b ++ List.replicate 8 false := by
  have hb := b.toNat_lt
  simp only [registerBits, byteBits, UInt8.toNat_toUInt16]
  rw [show (16 : Nat) = 8 + 8 from rfl, bitsOf_add]
  rw [show b.toNat >>> 8 = 0 by simp [Nat.shiftRight_eq_div_pow, Nat.div_eq_of_lt hb]]
  rfl

theorem registerBits_generator :
    registerBits generator = [true, false, false, false, false, false, false, false,
      false, false, false, false, false, true, false, true] := by
  decide

theorem eq_zero_of_registerBits {r : UInt16} (h : registerBits r = List.replicate 16 false) :
    r = 0 :=
  UInt16.toNat_inj.mp (bitsOf_eq_replicate r.toNat_lt h)

theorem registerBits_eq_cons (r : UInt16) :
    registerBits r = (r &&& 1 != 0) :: (registerBits r).tail := by
  have hbit : (r &&& 1 != 0) = r.toNat.testBit 0 := by
    have hmod : (r &&& 1).toNat = r.toNat % 2 := by
      simp [Nat.and_one_is_mod]
    rw [Nat.testBit_zero, Bool.eq_iff_iff]
    simp only [bne_iff_ne, ne_eq, ← UInt16.toNat_inj, hmod, decide_eq_true_eq]
    simp
  rw [hbit, registerBits, show (16 : Nat) = 1 + 15 from rfl, bitsOf_add]
  rfl

end Crc

end RtuBus


open Polynomial AdjoinRoot

namespace RtuBus.Crc

def bit (b : Bool) : ZMod 2 :=
  if b then 1 else 0

/-- The polynomial over GF(2) of a bit string, its first bit of highest degree. -/
noncomputable def bitsPoly (bs : List Bool) : (ZMod 2)[X] :=
  bs.foldl (fun p b => p * X + C (bit b)) 0

@[simp] theorem bit_false : bit false = 0 := rfl

@[simp] theorem bit_true : bit true = 1 := rfl

theorem bit_xor (a b : Bool) : bit (a ^^ b) = bit a + bit b := by
  cases a <;> cases b <;> decide

private theorem foldl_horner (bs : List Bool) (acc : (ZMod 2)[X]) :
    bs.foldl (fun p b => p * X + C (bit b)) acc = acc * X ^ bs.length + bitsPoly bs := by
  induction bs generalizing acc with
  | nil => simp [bitsPoly]
  | cons b bs ih =>
    have hcons : bitsPoly (b :: bs) = (0 * X + C (bit b)) * X ^ bs.length + bitsPoly bs :=
      ih _
    rw [List.foldl_cons, ih, hcons, List.length_cons]
    ring

@[simp] theorem bitsPoly_nil : bitsPoly [] = 0 := rfl

theorem bitsPoly_append (bs cs : List Bool) :
    bitsPoly (bs ++ cs) = bitsPoly bs * X ^ cs.length + bitsPoly cs := by
  rw [bitsPoly, List.foldl_append, foldl_horner]
  rfl

theorem bitsPoly_cons (b : Bool) (bs : List Bool) :
    bitsPoly (b :: bs) = C (bit b) * X ^ bs.length + bitsPoly bs := by
  rw [← List.singleton_append, bitsPoly_append]
  simp [bitsPoly]

theorem bitsPoly_concat (bs : List Bool) (b : Bool) :
    bitsPoly (bs ++ [b]) = bitsPoly bs * X + C (bit b) := by
  rw [bitsPoly_append]
  simp [bitsPoly]

theorem bitsPoly_zipWith_xor {bs cs : List Bool} (h : bs.length = cs.length) :
    bitsPoly (List.zipWith (· ^^ ·) bs cs) = bitsPoly bs + bitsPoly cs := by
  induction bs generalizing cs with
  | nil => cases cs <;> simp_all
  | cons b bs ih =>
    cases cs with
    | nil => simp at h
    | cons c cs =>
      simp only [List.length_cons, Nat.add_right_cancel_iff] at h
      simp only [List.zipWith_cons_cons, bitsPoly_cons, List.length_zipWith, h, Nat.min_self,
        ih h, bit_xor, C_add]
      ring

theorem coeff_bitsPoly (bs : List Bool) (d : Nat) :
    (bitsPoly bs).coeff d = bit (bs.reverse.getD d false) := by
  induction bs using List.reverseRecOn generalizing d with
  | nil => simp
  | append_singleton bs b ih =>
    rw [bitsPoly_concat, List.reverse_append]
    cases d with
    | zero => simp
    | succ d => simp [ih]

theorem degree_bitsPoly_lt (bs : List Bool) : (bitsPoly bs).degree < bs.length := by
  rw [degree_lt_iff_coeff_zero]
  intro d hd
  rw [coeff_bitsPoly, List.getD_eq_getElem?_getD, List.getElem?_eq_none (by simpa using hd)]
  rfl

theorem bitsPoly_eq_zero_iff {bs : List Bool} : bitsPoly bs = 0 ↔ ∀ b ∈ bs, b = false := by
  constructor
  · intro h b hb
    obtain ⟨i, hi, hget⟩ := List.getElem_of_mem (List.mem_reverse.mpr hb)
    have hc := congrArg (coeff · i) h
    simp only [coeff_bitsPoly, coeff_zero, List.getD_eq_getElem?_getD,
      List.getElem?_eq_getElem hi, Option.getD_some, hget] at hc
    cases b
    · rfl
    · exact absurd hc (by decide)
  · intro h
    ext d
    rw [coeff_bitsPoly, coeff_zero, List.getD_eq_getElem?_getD]
    cases hget : bs.reverse[d]? with
    | none => rfl
    | some b => simp [h b (List.mem_reverse.mp (List.mem_of_getElem? hget))]

/-- The generator of the check word, `x^16 + x^15 + x^2 + 1` over GF(2). -/
noncomputable def generatorPoly : (ZMod 2)[X] :=
  X ^ 16 + X ^ 15 + X ^ 2 + 1

/-- The register as a residue modulo the generator: bit `j` is the coefficient of
`x^(15 - j)`. -/
noncomputable def residue (r : UInt16) : AdjoinRoot generatorPoly :=
  mk _ (bitsPoly (registerBits r))

theorem two_eq_zero : (2 : AdjoinRoot generatorPoly) = 0 := by
  rw [← map_ofNat (mk generatorPoly) 2]
  have : (2 : (ZMod 2)[X]) = 0 := by
    rw [← C_ofNat, show (2 : ZMod 2) = 0 from rfl, C_0]
  rw [this, map_zero]

theorem root_pow_sixteen :
    root generatorPoly ^ 16 + root generatorPoly ^ 15 +
      root generatorPoly ^ 2 + 1 = 0 := by
  have h : mk generatorPoly (X ^ 16 + X ^ 15 + X ^ 2 + 1) = 0 := mk_self
  simpa only [map_add, map_pow, map_one, mk_X] using h

theorem residue_xor (a b : UInt16) : residue (a ^^^ b) = residue a + residue b := by
  rw [residue, registerBits_xor, bitsPoly_zipWith_xor (by simp), map_add]
  rfl

theorem residue_eq_head_tail (r : UInt16) :
    residue r = mk _ (C (bit (r &&& 1 != 0)) * X ^ 15 +
      bitsPoly (registerBits r).tail) := by
  rw [residue, registerBits_eq_cons, bitsPoly_cons, ← registerBits_eq_cons]
  simp

theorem residue_shiftRight_one (r : UInt16) :
    residue (r >>> 1) = root generatorPoly * mk _ (bitsPoly (registerBits r).tail) := by
  rw [residue, registerBits_shiftRight_one, bitsPoly_concat]
  simp [mk_X, mul_comm]

theorem residue_generator :
    residue generator = root generatorPoly ^ 15 + root generatorPoly ^ 2 + 1 := by
  rw [residue, registerBits_generator]
  simp [bitsPoly_cons, mk_X]
  ring

theorem residue_bitStep (r : UInt16) : residue (bitStep r) = root generatorPoly * residue r := by
  rw [residue_eq_head_tail r, bitStep]
  split
  · rename_i h0
    simp [h0, residue_shiftRight_one]
  · rename_i h1
    have hbit : (r &&& 1 != 0) = true := by simpa using h1
    simp [hbit, residue_xor, residue_shiftRight_one, residue_generator, mk_X]
    linear_combination root_pow_sixteen - root generatorPoly ^ 16 * two_eq_zero

theorem residue_bitSteps (n : Nat) (r : UInt16) :
    residue (bitSteps n r) = root generatorPoly ^ n * residue r := by
  induction n generalizing r with
  | zero => simp [bitSteps]
  | succ n ih =>
    rw [bitSteps, ih, residue_bitStep]
    ring

noncomputable def wirePoly (e : Bytes) : (ZMod 2)[X] :=
  bitsPoly (wireBits e)

theorem wireBits_append (e f : Bytes) : wireBits (e ++ f) = wireBits e ++ wireBits f :=
  List.flatMap_append

theorem wirePoly_append (e f : Bytes) :
    wirePoly (e ++ f) = wirePoly e * X ^ (8 * f.length) + wirePoly f := by
  rw [wirePoly, wireBits_append, bitsPoly_append, length_wireBits]
  rfl

theorem residue_toUInt16 (b : UInt8) :
    residue b.toUInt16 = root generatorPoly ^ 8 * mk _ (wirePoly [b]) := by
  have hzero : bitsPoly (List.replicate 8 false) = 0 := bitsPoly_eq_zero_iff.mpr (by simp)
  rw [residue, registerBits_toUInt16, bitsPoly_append, hzero]
  simp [wirePoly, wireBits, mk_X, mul_comm]

theorem residue_byteStep (r : UInt16) (b : UInt8) :
    residue (byteStep r b) =
      root generatorPoly ^ 8 * residue r + root generatorPoly ^ 16 * mk _ (wirePoly [b]) := by
  rw [byteStep, residue_bitSteps, residue_xor, residue_toUInt16]
  ring

theorem residue_foldl (e : Bytes) (r : UInt16) :
    residue (e.foldl byteStep r) =
      root generatorPoly ^ (8 * e.length) * residue r +
        root generatorPoly ^ 16 * mk _ (wirePoly e) := by
  induction e generalizing r with
  | nil => simp [wirePoly, wireBits]
  | cons b e ih =>
    rw [List.foldl_cons, ih, residue_byteStep, show b :: e = [b] ++ e from rfl, wirePoly_append]
    simp only [map_add, map_mul, map_pow, mk_X, List.length_append,
      List.length_singleton]
    ring

theorem degree_generatorPoly : generatorPoly.degree = 16 := by
  unfold generatorPoly
  compute_degree!

theorem residue_eq_zero_iff {r : UInt16} : residue r = 0 ↔ r = 0 := by
  constructor
  · intro h
    have hdvd := mk_eq_zero.mp h
    have hlt : (bitsPoly (registerBits r)).degree < generatorPoly.degree := by
      rw [degree_generatorPoly]
      simpa using degree_bitsPoly_lt (registerBits r)
    have hzero := Polynomial.eq_zero_of_dvd_of_degree_lt hdvd hlt
    exact eq_zero_of_registerBits
      (List.eq_replicate_iff.mpr ⟨by simp, bitsPoly_eq_zero_iff.mp hzero⟩)
  · rintro rfl
    rw [residue, bitsPoly_eq_zero_iff.mpr (by decide), map_zero]

theorem add_eq_zero_iff_eq {a b : AdjoinRoot generatorPoly} : a + b = 0 ↔ a = b := by
  constructor
  · intro h
    linear_combination h - b * two_eq_zero
  · intro h
    linear_combination h + b * two_eq_zero

theorem residue_inj {a b : UInt16} : residue a = residue b ↔ a = b := by
  constructor
  · intro h
    have hxor : residue (a ^^^ b) = 0 := by
      rw [residue_xor, add_eq_zero_iff_eq.mpr h]
    exact UInt16.xor_eq_zero_iff.mp (residue_eq_zero_iff.mp hxor)
  · rintro rfl
    rfl

end RtuBus.Crc
