import RtuBus.Proofs.Frames
import RtuBus.Proofs.CrcResidue

/-! # Errors the check word detects

An error pattern `e` flips bits of a frame; its polynomial has the flipped bits as
coefficients, in wire order, the first bit of highest degree. A frame `m ++ crc(m)` with `e`
flipped passes the check exactly when `x^16 + x^15 + x^2 + 1` divides that polynomial
(`verifyCrc_xorBytes_eq_ok_iff`): the check word is affine over GF(2), and the seed `0xFFFF`
cancels because the frame and the corrupted frame have the same length. Errors that flip an
odd number of bits (`not_dvd_of_odd`) and non-zero errors whose flipped bits lie within
sixteen consecutive wire positions, across byte boundaries and into the trailer
(`not_dvd_of_burst`), are refused. A corruption keeps the length of a response, and both
response readers check the check word right after the length, so they refuse such a
corrupted response with a check word mismatch.
-/

open Polynomial AdjoinRoot

namespace RtuBus.Crc

/-- A byte string with the bits of an error pattern flipped, byte by byte. -/
def xorBytes (a e : Bytes) : Bytes :=
  List.zipWith (· ^^^ ·) a e

def flips (e : Bytes) : Nat :=
  (wireBits e).count true

/-- The bits an error pattern flips lie within `w` consecutive positions of the wire order. -/
def WithinBurst (w : Nat) (e : Bytes) : Prop :=
  ∃ k, ∀ i, (wireBits e)[i]? = some true → k ≤ i ∧ i < k + w

theorem length_xorBytes (a e : Bytes) : (xorBytes a e).length = min a.length e.length := by
  simp [xorBytes]

theorem wireBits_xorBytes {a e : Bytes} (h : a.length = e.length) :
    wireBits (xorBytes a e) = List.zipWith (· ^^ ·) (wireBits a) (wireBits e) := by
  induction a generalizing e with
  | nil => cases e <;> simp_all [xorBytes, wireBits]
  | cons b a ih =>
    cases e with
    | nil => simp at h
    | cons c e =>
      simp only [List.length_cons, Nat.add_right_cancel_iff] at h
      simp only [xorBytes, List.zipWith_cons_cons, wireBits, List.flatMap_cons] at ih ⊢
      rw [byteBits_xor, ih h, List.zipWith_append (by simp)]

theorem wirePoly_xorBytes {a e : Bytes} (h : a.length = e.length) :
    wirePoly (xorBytes a e) = wirePoly a + wirePoly e := by
  rw [wirePoly, wireBits_xorBytes h, bitsPoly_zipWith_xor (by simp [h])]
  rfl

theorem residue_ofTrailer (lo hi : UInt8) :
    residue (ofTrailer lo hi) = mk _ (wirePoly [lo, hi]) := by
  rw [residue, registerBits_eq_wireBits_trailer, trailer_ofTrailer]
  rfl

theorem residue_eq_wirePoly_trailer (c : UInt16) : residue c = mk _ (wirePoly (trailer c)) := by
  rw [residue, registerBits_eq_wireBits_trailer]
  rfl

theorem residue_ofBytes (m : Bytes) :
    residue (ofBytes m) = root generatorPoly ^ (8 * m.length) * residue seed +
      root generatorPoly ^ 16 * mk _ (wirePoly m) :=
  residue_foldl m seed

/-- A frame with an error pattern of its own length flipped is a non-empty body and two
trailer bytes, and the trailer matches the body exactly when the generator divides the
error's polynomial. -/
theorem corrupted_frame {m e : Bytes} (hm : m ≠ []) (he : e.length = m.length + 2) :
    ∃ body lo hi, body ≠ [] ∧ xorBytes (withCheck m) e = body ++ [lo, hi] ∧
      (ofTrailer lo hi = ofBytes body ↔ generatorPoly ∣ wirePoly e) := by
  obtain ⟨lo, hi, hdrop⟩ : ∃ lo hi, e.drop m.length = [lo, hi] := by
    match hd : e.drop m.length, (by simp [he] : (e.drop m.length).length = 2) with
    | [lo, hi], _ => exact ⟨lo, hi, rfl⟩
  set e₁ := e.take m.length with he₁
  have hlen₁ : m.length = e₁.length := by simp [e₁, he]
  have hsplit : e = e₁ ++ [lo, hi] := by rw [he₁, ← hdrop, List.take_append_drop]
  set c := ofBytes m
  have hxor : xorBytes (withCheck m) e =
      xorBytes m e₁ ++ [c.toUInt8 ^^^ lo, (c >>> 8).toUInt8 ^^^ hi] := by
    rw [hsplit, withCheck, xorBytes, List.zipWith_append hlen₁]
    rfl
  refine ⟨xorBytes m e₁, _, _, ?_, hxor, ?_⟩
  · apply List.ne_nil_of_length_pos
    simp only [length_xorBytes, ← hlen₁, Nat.min_self]
    exact List.length_pos_iff.mpr hm
  · have htrailer : residue (ofTrailer (c.toUInt8 ^^^ lo) ((c >>> 8).toUInt8 ^^^ hi)) =
        residue c + mk _ (wirePoly [lo, hi]) := by
      rw [residue_ofTrailer, show [c.toUInt8 ^^^ lo, (c >>> 8).toUInt8 ^^^ hi] =
        xorBytes (trailer c) [lo, hi] from rfl,
        wirePoly_xorBytes (show (trailer c).length = [lo, hi].length from rfl), map_add,
        residue_eq_wirePoly_trailer]
    have hbody : residue (ofBytes (xorBytes m e₁)) =
        residue c + root generatorPoly ^ 16 * mk _ (wirePoly e₁) := by
      rw [residue_ofBytes, residue_ofBytes, wirePoly_xorBytes hlen₁, length_xorBytes,
        ← hlen₁, Nat.min_self, map_add]
      ring
    have hpoly : wirePoly e = wirePoly e₁ * X ^ 16 + wirePoly [lo, hi] := by
      rw [hsplit, wirePoly_append]
      rfl
    rw [← residue_inj, htrailer, hbody, add_right_inj, ← add_eq_zero_iff_eq, ← mk_eq_zero,
      hpoly]
    simp only [map_add, map_mul, map_pow, mk_X]
    rw [add_comm, mul_comm]

theorem verifyCrc_xorBytes_eq_ok_iff {m e : Bytes} (hm : m ≠ []) (he : e.length = m.length + 2) :
    verifyCrc (xorBytes (withCheck m) e) = .ok () ↔ generatorPoly ∣ wirePoly e := by
  obtain ⟨body, lo, hi, hbody, hframe, hcheck⟩ := corrupted_frame hm he
  rw [hframe, verifyCrc_append_pair hbody, ← hcheck]
  split <;> simp_all

theorem verifyCrc_xorBytes_of_not_dvd {m e : Bytes} (hm : m ≠ []) (he : e.length = m.length + 2)
    (hdvd : ¬ generatorPoly ∣ wirePoly e) :
    ∃ x y, verifyCrc (xorBytes (withCheck m) e) = .error (.crcMismatch x y) := by
  obtain ⟨body, lo, hi, hbody, hframe, hcheck⟩ := corrupted_frame hm he
  rw [hframe, verifyCrc_append_pair hbody, if_neg (fun h => hdvd (hcheck.mp h))]
  exact ⟨_, _, rfl⟩

theorem eval_one_bitsPoly (bs : List Bool) : (bitsPoly bs).eval 1 = (bs.count true : ZMod 2) := by
  induction bs with
  | nil => simp
  | cons b bs ih =>
    rw [bitsPoly_cons, eval_add, ih, List.count_cons]
    cases b
    · simp
    · simp [add_comm]

theorem eval_one_generatorPoly : generatorPoly.eval 1 = 0 := by
  simp only [generatorPoly, eval_add, eval_pow, eval_X, eval_one, one_pow]
  decide

theorem not_dvd_of_odd {e : Bytes} (h : Odd (flips e)) : ¬ generatorPoly ∣ wirePoly e := by
  rintro ⟨q, hq⟩
  have h1 := congrArg (eval 1) hq
  rw [eval_mul, eval_one_generatorPoly, zero_mul, wirePoly, eval_one_bitsPoly] at h1
  exact (Nat.not_even_iff_odd.mpr h) (ZMod.natCast_eq_zero_iff_even.mp h1)

theorem isCoprime_generatorPoly_X : IsCoprime generatorPoly X :=
  ⟨1, -(X ^ 15 + X ^ 14 + X), by unfold generatorPoly; ring⟩

/-- A non-zero coefficient of the error polynomial is a flipped bit: degree `d` is the bit
`d` places before the end of the wire order. -/
theorem flipped_of_coeff_ne_zero {e : Bytes} {d : Nat} (h : (wirePoly e).coeff d ≠ 0) :
    d < (wireBits e).length ∧ (wireBits e)[(wireBits e).length - 1 - d]? = some true := by
  rw [wirePoly, coeff_bitsPoly, List.getD_eq_getElem?_getD] at h
  cases hget : (wireBits e).reverse[d]? with
  | none => simp [hget] at h
  | some b =>
    have hd : d < (wireBits e).length := by
      simpa using (List.getElem?_eq_some_iff.mp hget).1
    rw [hget] at h
    rw [List.getElem?_reverse hd] at hget
    cases b
    · simp at h
    · exact ⟨hd, hget⟩

theorem wirePoly_ne_zero {e : Bytes} (h : flips e ≠ 0) : wirePoly e ≠ 0 := by
  intro hz
  have hall := bitsPoly_eq_zero_iff.mp hz
  exact h (List.count_eq_zero.mpr (fun hmem => by simpa using hall true hmem))

/-- An error whose flipped bits lie within sixteen consecutive wire positions is `x^a · q` with
`q` non-zero and of degree below sixteen; the generator is prime to `x` and of degree sixteen,
so it does not divide it. -/
theorem not_dvd_of_burst {e : Bytes} (hb : WithinBurst 16 e) (hne : flips e ≠ 0) :
    ¬ generatorPoly ∣ wirePoly e := by
  obtain ⟨k, hk⟩ := hb
  have hwindow : ∀ d, (wirePoly e).coeff d ≠ 0 →
      k + 1 + d ≤ (wireBits e).length ∧ (wireBits e).length ≤ d + k + 16 := by
    intro d hd
    obtain ⟨hlt, hget⟩ := flipped_of_coeff_ne_zero hd
    have := hk _ hget
    omega
  obtain ⟨q, hq⟩ : X ^ ((wireBits e).length - (k + 16)) ∣ wirePoly e := by
    refine X_pow_dvd_iff.mpr fun d hd => ?_
    by_contra h
    have := hwindow d h
    omega
  have hq0 : q ≠ 0 := by
    rintro rfl
    exact wirePoly_ne_zero hne (by simpa using hq)
  have hdeg : q.degree < generatorPoly.degree := by
    rw [degree_generatorPoly]
    refine (degree_lt_iff_coeff_zero q 16).mpr fun d hd => ?_
    by_contra h
    have hcoeff : (wirePoly e).coeff (d + ((wireBits e).length - (k + 16))) ≠ 0 := by
      rwa [hq, coeff_X_pow_mul]
    have := hwindow _ hcoeff
    omega
  intro hG
  rw [hq] at hG
  exact not_dvd_of_degree_lt hq0 hdeg (isCoprime_generatorPoly_X.pow_right.dvd_of_dvd_mul_left hG)

/-- Error detection of the check word over the whole frame format, and of both response
readers. -/
theorem crc_detects_errors :
    (∀ m : Bytes, m ≠ [] → verifyCrc (withCheck m) = .ok ()) ∧
    (∀ m e : Bytes, m ≠ [] → e.length = m.length + 2 →
      (verifyCrc (xorBytes (withCheck m) e) = .ok () ↔ generatorPoly ∣ wirePoly e)) ∧
    (∀ m e : Bytes, m ≠ [] → e.length = m.length + 2 →
      Odd (flips e) ∨ (flips e ≠ 0 ∧ WithinBurst 16 e) →
      ∃ x y, verifyCrc (xorBytes (withCheck m) e) = .error (.crcMismatch x y)) ∧
    (∀ (count : UInt16) (words : List UInt16) (slave slave' : UInt8) (f f' : FunctionCode)
      (e : Bytes), isReadCount count = true → words.length = count.toNat →
      e.length = 5 + count.toNat * 2 → ¬ generatorPoly ∣ wirePoly e →
      ∃ x y, parseReadResponse (xorBytes (encodeReadResponse slave f words) e) slave' f' count =
        .error (.crcMismatch x y)) ∧
    (∀ (body e : Bytes) (request : RequestFrame), body.length = 6 → e.length = 8 →
      ¬ generatorPoly ∣ wirePoly e →
      ∃ x y, parseWriteSingleResponse (xorBytes (withCheck body) e) request =
        .error (.crcMismatch x y)) := by
  refine ⟨fun m hm => verifyCrc_withCheck hm, fun m e hm he => verifyCrc_xorBytes_eq_ok_iff hm he,
    ?_, ?_, ?_⟩
  · rintro m e hm he (hodd | ⟨hne, hburst⟩)
    · exact verifyCrc_xorBytes_of_not_dvd hm he (not_dvd_of_odd hodd)
    · exact verifyCrc_xorBytes_of_not_dvd hm he (not_dvd_of_burst hburst hne)
  · intro count words slave slave' f f' e hcount hwords he hdvd
    have hm : slave :: f.value :: (2 * words.length).toUInt8 :: words.flatMap wordBytes ≠ [] :=
      List.cons_ne_nil _ _
    have hlen : e.length = (slave :: f.value :: (2 * words.length).toUInt8 ::
        words.flatMap wordBytes).length + 2 := by
      simp only [List.length_cons, length_flatMap_wordBytes, hwords, he]
      omega
    obtain ⟨x, y, hv⟩ := verifyCrc_xorBytes_of_not_dvd hm hlen hdvd
    refine ⟨x, y, parseReadResponse_of_verifyCrc hcount ?_ hv slave' f'⟩
    simp only [length_xorBytes, length_withCheck, List.length_cons, length_flatMap_wordBytes,
      hwords, he]
    omega
  · intro body e request hbody he hdvd
    have hm : body ≠ [] := List.ne_nil_of_length_pos (by omega)
    obtain ⟨x, y, hv⟩ := verifyCrc_xorBytes_of_not_dvd hm (by omega) hdvd
    have hlen : (xorBytes (withCheck body) e).length = 8 := by
      simp [xorBytes, hbody, he]
    exact ⟨x, y, parseWriteSingleResponse_of_verifyCrc hlen hv request⟩

/-- One flipped bit in the last trailer byte of a read request's frame is refused. -/
theorem flip_in_trailer_refused :
    ([0x01, 0x03, 0x00, 0x00, 0x00, 0x01] : Bytes) ≠ [] ∧
      ([0, 0, 0, 0, 0, 0, 0, 0x80] : Bytes).length = 6 + 2 ∧
      Odd (flips [0, 0, 0, 0, 0, 0, 0, 0x80]) ∧
      ∃ x y, verifyCrc (xorBytes (withCheck [0x01, 0x03, 0x00, 0x00, 0x00, 0x01])
        [0, 0, 0, 0, 0, 0, 0, 0x80]) = .error (.crcMismatch x y) :=
  ⟨by decide, rfl, by decide,
    crc_detects_errors.2.2.1 _ _ (by decide) rfl (Or.inl (by decide))⟩

end RtuBus.Crc
