/-!
# Byte strings

Contents are lists of bytes, so that every statement about them is a statement about lists. This
file holds the few operations that the rest of the library needs beside those of `List`: overwriting
a range, and reading and writing numbers with the least significant byte first.

## Main statements

* `Bytes.length_overwrite`: overwriting a range inside a string keeps its length.
* `Bytes.ofLittleEndian_littleEndian`: a number that fits is read back from its bytes.
* `Bytes.littleEndian_ofLittleEndian`: bytes are written back from their number.
-/

namespace PeerNet

/-- A string of bytes. -/
abbrev Bytes := List UInt8

namespace Bytes

/-- `n` bytes of value zero. -/
def zeros (n : Nat) : Bytes := List.replicate n 0

/-- `dst` with `src` written over it from position `start` on. What does not fit is dropped. -/
def overwrite (dst : Bytes) (start : Nat) (src : Bytes) : Bytes :=
  dst.take start ++ (src.take (dst.length - start) ++ dst.drop (start + src.length))

/-- The bytes at positions `start`, ..., `start + count - 1`. -/
def slice (bytes : Bytes) (start count : Nat) : Bytes := (bytes.drop start).take count

@[simp] theorem length_zeros (n : Nat) : (zeros n).length = n := by simp [zeros]

/-- Overwriting bytes leaves their number alone, however many are written. -/
theorem length_overwrite (dst src : Bytes) {start : Nat} (h : start ≤ dst.length) :
    (dst.overwrite start src).length = dst.length := by
  simp only [overwrite, List.length_append, List.length_take, List.length_drop]
  omega

@[simp] theorem overwrite_nil (dst : Bytes) (start : Nat) : dst.overwrite start [] = dst := by
  simp [overwrite]

/-! ## Numbers, least significant byte first -/

/-- `n` in `width` bytes, the least significant first; higher bits are dropped. -/
def littleEndian : (width n : Nat) → Bytes
  | 0, _ => []
  | width + 1, n => UInt8.ofNat (n % 256) :: littleEndian width (n / 256)

/-- The number whose bytes, the least significant first, are these. -/
def ofLittleEndian : Bytes → Nat
  | [] => 0
  | b :: rest => b.toNat + 256 * ofLittleEndian rest

/-- A number is written in exactly the width that it is given. -/
@[simp] theorem length_littleEndian (width n : Nat) : (littleEndian width n).length = width := by
  induction width generalizing n with
  | zero => rfl
  | succ width ih => simp [littleEndian, ih]

/-- A number that fits its width is read back as it was written. -/
theorem ofLittleEndian_littleEndian {width n : Nat} (h : n < Nat.pow 256 width) :
    ofLittleEndian (littleEndian width n) = n := by
  induction width generalizing n with
  | zero => simp [littleEndian, ofLittleEndian, Nat.lt_one_iff.1 h]
  | succ width ih =>
    have hdiv : n / 256 < Nat.pow 256 width :=
      Nat.div_lt_of_lt_mul (Nat.mul_comm _ 256 ▸ h)
    have hmod : (UInt8.ofNat (n % 256)).toNat = n % 256 := by
      simp [UInt8.toNat_ofNat']
    simp only [littleEndian, ofLittleEndian, ih hdiv, hmod]
    omega

/-- Bytes never make a number that would not fit them. -/
theorem ofLittleEndian_lt (bytes : Bytes) : ofLittleEndian bytes < Nat.pow 256 bytes.length := by
  induction bytes with
  | nil => exact Nat.one_pos
  | cons b rest ih =>
    have hb : b.toNat < 256 := b.toNat_lt
    have hpow : Nat.pow 256 (b :: rest).length = Nat.pow 256 rest.length * 256 := rfl
    simp only [ofLittleEndian, hpow]
    omega

/-- Writing the number that bytes make gives the same bytes. -/
theorem littleEndian_ofLittleEndian (bytes : Bytes) :
    littleEndian bytes.length (ofLittleEndian bytes) = bytes := by
  induction bytes with
  | nil => rfl
  | cons b rest ih =>
    have hb : b.toNat < 256 := b.toNat_lt
    have hmod : (b.toNat + 256 * ofLittleEndian rest) % 256 = b.toNat := by omega
    have hdiv : (b.toNat + 256 * ofLittleEndian rest) / 256 = ofLittleEndian rest := by omega
    simp only [List.length_cons, littleEndian, ofLittleEndian, hmod, hdiv, ih, UInt8.ofNat_toNat]

end Bytes

end PeerNet
