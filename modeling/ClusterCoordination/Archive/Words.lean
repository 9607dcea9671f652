import Mathlib.Algebra.Group.Nat.Defs
import ClusterCoordination.Archive.Schema
/-!
# Words and their bytes

The little endian bytes of a number keep it modulo a power of 256, which is enough for every word of
their width. So a word is found again in the bytes that are written for it.
-/

set_option autoImplicit false

namespace ClusterCoordination

namespace Bytes

@[simp] theorem littleEndian_zero (value : Nat) : littleEndian 0 value = [] := rfl

theorem toNat_littleEndian (count value : Nat) :
    toNat (littleEndian count value) = value % 256 ^ count := by
  induction count generalizing value with
  | zero => simp [littleEndian, toNat, Nat.mod_one]
  | succ count ih =>
    have low : (UInt8.ofNat value).toNat = value % 256 := by simp
    rw [littleEndian, toNat, ih, low, Nat.pow_succ', Nat.mod_mul]

theorem toNat_littleEndian_of_lt {count value : Nat} (fits : value < 256 ^ count) :
    toNat (littleEndian count value) = value := by
  rw [toNat_littleEndian, Nat.mod_eq_of_lt fits]

theorem toNat_lt (bytes : Bytes) : bytes.toNat < 256 ^ bytes.length := by
  have written := toNat_littleEndian bytes.length bytes.toNat
  rw [littleEndian_toNat] at written
  rw [written]
  exact Nat.mod_lt _ (Nat.pow_pos (by decide))

theorem toNat_take_lt (bytes : Bytes) (count : Nat) : toNat (bytes.take count) < 256 ^ count :=
  calc toNat (bytes.take count) < 256 ^ (bytes.take count).length := toNat_lt _
    _ ≤ 256 ^ count := Nat.pow_le_pow_right (by decide) (List.length_take_le count bytes)

theorem littleEndian_take {bytes : Bytes} {count : Nat} (enough : count ≤ bytes.length) :
    littleEndian count (toNat (bytes.take count)) = bytes.take count := by
  have exact_length : (bytes.take count).length = count := by simp [enough]
  have written := littleEndian_toNat (bytes.take count)
  rwa [exact_length] at written

theorem drop_littleEndian (count start value : Nat) :
    (littleEndian count value).drop start = littleEndian (count - start) (value / 256 ^ start) := by
  induction start generalizing count value with
  | zero => simp
  | succ start ih =>
    cases count with
    | zero => simp [littleEndian]
    | succ count =>
      rw [littleEndian, List.drop_succ_cons, ih, Nat.div_div_eq_div_mul, Nat.pow_succ']
      congr 1
      omega

theorem piece_append (bytes : Bytes) (start count : Nat) :
    (bytes.drop start).take count ++ bytes.drop (start + count) = bytes.drop start := by
  rw [← List.drop_drop, List.take_append_drop]

end Bytes

namespace Width

theorem value_lt (width : Width) (word : width.Word) : width.value word < 256 ^ width.bytes := by
  cases width with
  | one => exact UInt8.toNat_lt word
  | two => exact UInt16.toNat_lt word
  | four => exact UInt32.toNat_lt word
  | eight => exact UInt64.toNat_lt word

theorem wordOf_littleEndian (width : Width) (word : width.Word) :
    width.wordOf (Bytes.toNat (Bytes.littleEndian width.bytes (width.value word))) = word := by
  rw [Bytes.toNat_littleEndian_of_lt (width.value_lt word), wordOf_value]

end Width

end ClusterCoordination
