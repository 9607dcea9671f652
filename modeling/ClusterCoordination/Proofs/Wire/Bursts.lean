import Mathlib.Data.Nat.Bitwise
import Mathlib.Logic.Function.Iterate
import ClusterCoordination.Archive.Words
import ClusterCoordination.Wire.Checksum
/-!
# Bursts of errors

The checksum tells apart any two byte strings that differ in at most four consecutive bytes only. Up
to four bytes are fed by shifting the register once for every bit of them, after their number has
been added to it; and shifting loses nothing.
-/

set_option autoImplicit false

namespace ClusterCoordination

namespace Checksum

theorem shift_of_even {register : UInt32} (even : register.toNat % 2 = 0) :
    shift register = register >>> 1 := by
  have low : register &&& 1 = 0 := by
    apply UInt32.toNat_inj.mp
    rw [UInt32.toNat_and]
    exact (Nat.and_one_is_mod _).trans even
  exact if_pos low

theorem shift_of_odd {register : UInt32} (odd : register.toNat % 2 = 1) :
    shift register = register >>> 1 ^^^ 0xEDB88320 := by
  have low : register &&& 1 ≠ 0 := by
    intro zero
    have value : register.toNat &&& 1 = 0 := congrArg UInt32.toNat zero
    rw [Nat.and_one_is_mod] at value
    omega
  exact if_neg low

theorem xor_twice (first second mask : UInt32) :
    first ^^^ mask ^^^ (second ^^^ mask) = first ^^^ second := by
  have together : first ^^^ mask ^^^ (second ^^^ mask) = first ^^^ second ^^^ (mask ^^^ mask) := by
    ac_rfl
  rw [together, UInt32.xor_self, UInt32.xor_zero]

theorem shift_xor (first second : UInt32) :
    shift (first ^^^ second) = shift first ^^^ shift second := by
  have parity : (first ^^^ second).toNat % 2 = (first.toNat + second.toNat) % 2 := by
    rw [UInt32.toNat_xor, Nat.xor_mod_two_eq]
  have halves : (first ^^^ second) >>> 1 = first >>> 1 ^^^ second >>> 1 := UInt32.shiftRight_xor
  rcases Nat.mod_two_eq_zero_or_one first.toNat with even | odd <;>
    rcases Nat.mod_two_eq_zero_or_one second.toNat with alsoEven | alsoOdd
  · rw [shift_of_even (by omega), shift_of_even even, shift_of_even alsoEven, halves]
  · rw [shift_of_odd (by omega), shift_of_even even, shift_of_odd alsoOdd, halves, UInt32.xor_assoc]
  · rw [shift_of_odd (by omega), shift_of_odd odd, shift_of_even alsoEven, halves]
    ac_rfl
  · rw [shift_of_even (by omega), shift_of_odd odd, shift_of_odd alsoOdd, halves]
    exact (xor_twice _ _ _).symm

theorem toNat_half (register : UInt32) : (register >>> 1).toNat = register.toNat / 2 := by
  rw [UInt32.toNat_shiftRight]
  exact Nat.shiftRight_eq_div_pow register.toNat 1

theorem eq_zero_of_shift {register : UInt32} (zero : shift register = 0) : register = 0 := by
  have limit := register.toNat_lt
  have half := toNat_half register
  apply UInt32.toNat_inj.mp
  rcases Nat.mod_two_eq_zero_or_one register.toNat with even | odd
  · rw [shift_of_even even] at zero
    rw [zero] at half
    change 0 = register.toNat / 2 at half
    change register.toNat = 0
    omega
  · rw [shift_of_odd odd, UInt32.xor_eq_zero_iff] at zero
    -- The polynomial has its highest bit set, and half a register has not.
    rw [zero] at half
    change 3988292384 = register.toNat / 2 at half
    omega

theorem shift_injective : Function.Injective shift := by
  intro first second same
  apply UInt32.xor_eq_zero_iff.mp
  apply eq_zero_of_shift
  rw [shift_xor, same, UInt32.xor_self]

theorem shifts_xor (count : Nat) (first second : UInt32) :
    shift^[count] (first ^^^ second) = shift^[count] first ^^^ shift^[count] second := by
  induction count generalizing first second with
  | zero => rfl
  | succ count ih => simp only [Function.iterate_succ_apply, shift_xor, ih]

theorem shifts_raised {count value : Nat} (fits : 2 ^ count * value < 4294967296) :
    shift^[count] (UInt32.ofNat (2 ^ count * value)) = UInt32.ofNat value := by
  induction count generalizing value with
  | zero => simp
  | succ count ih =>
    have raised : 2 ^ (count + 1) * value = 2 ^ count * (2 * value) := by
      rw [pow_succ, Nat.mul_assoc]
    have single : 2 * value < 4294967296 := by
      have more : 1 * (2 * value) ≤ 2 ^ count * (2 * value) :=
        Nat.mul_le_mul_right _ Nat.one_le_two_pow
      omega
    have double : (UInt32.ofNat (2 * value)).toNat = 2 * value := by
      rw [UInt32.toNat_ofNat']
      omega
    rw [raised, Function.iterate_succ_apply', ih (raised ▸ fits), shift_of_even (by omega)]
    apply UInt32.toNat_inj.mp
    rw [toNat_half, double, UInt32.toNat_ofNat']
    omega

theorem repeat_eq_iterate (count : Nat) (register : UInt32) :
    Nat.repeat shift count register = shift^[count] register := by
  induction count with
  | zero => rfl
  | succ count ih => rw [Nat.repeat, ih, Function.iterate_succ_apply']

theorem feedByte_eq (state : Checksum) (byte : UInt8) :
    state.feedByte byte = ⟨shift^[8] (state.register ^^^ byte.toUInt32)⟩ := by
  rw [feedByte, repeat_eq_iterate]

theorem feedByte_injective (byte : UInt8) :
    Function.Injective fun state => feedByte state byte := by
  intro first second same
  simp only [feedByte_eq, mk.injEq] at same
  have registers := (UInt32.xor_left_inj _).mp (shift_injective.iterate 8 same)
  cases first
  cases second
  exact congrArg mk registers

theorem feed_injective (bytes : Bytes) : Function.Injective fun state => feed state bytes := by
  induction bytes with
  | nil => exact fun _ _ same => same
  | cons byte rest ih => exact ih.comp (feedByte_injective byte)

theorem byte_xor_raised (byte : UInt8) {value : Nat}
    (fits : byte.toNat + 256 * value < 4294967296) :
    byte.toUInt32 ^^^ UInt32.ofNat (2 ^ 8 * value) = UInt32.ofNat (byte.toNat + 256 * value) := by
  have small : byte.toNat < 2 ^ 8 := byte.toNat_lt
  apply UInt32.toNat_inj.mp
  rw [UInt32.toNat_xor, UInt8.toNat_toUInt32, UInt32.toNat_ofNat', UInt32.toNat_ofNat',
    Nat.mod_eq_of_lt (by omega), Nat.mod_eq_of_lt (by omega), Nat.add_comm]
  apply Nat.eq_of_testBit_eq
  intro place
  rw [Nat.testBit_xor, Nat.testBit_two_pow_mul, show 256 = 2 ^ 8 from rfl,
    Nat.testBit_two_pow_mul_add value small]
  by_cases low : place < 8
  · simp [low, Nat.not_le.mpr low]
  · have high : byte.toNat.testBit place = false :=
      Nat.testBit_lt_two_pow
        (Nat.lt_of_lt_of_le small (Nat.pow_le_pow_right Nat.two_pos (Nat.not_lt.mp low)))
    simp [low, high, Nat.not_lt.mp low]

theorem register_feed (state : Checksum) {bytes : Bytes} (few : bytes.length ≤ 4) :
    (state.feed bytes).register =
      shift^[8 * bytes.length] (state.register ^^^ UInt32.ofNat bytes.toNat) := by
  induction bytes generalizing state with
  | nil => simp [feed, Bytes.toNat]
  | cons byte rest ih =>
    have small : Bytes.toNat rest < 256 ^ rest.length := Bytes.toNat_lt rest
    have fewer : 256 ^ rest.length ≤ 256 ^ 3 :=
      Nat.pow_le_pow_right (by decide) (Nat.le_of_succ_le_succ few)
    have digit := byte.toNat_lt
    have total : byte.toNat + 256 * Bytes.toNat rest < 4294967296 := by omega
    have lowered :
        UInt32.ofNat (Bytes.toNat rest) = shift^[8] (UInt32.ofNat (2 ^ 8 * Bytes.toNat rest)) :=
      (shifts_raised (by omega)).symm
    have fed : state.feed (byte :: rest) = (state.feedByte byte).feed rest := rfl
    rw [fed, ih _ (by simp at few; omega), feedByte_eq, lowered, ← shifts_xor,
      ← Function.iterate_add_apply, UInt32.xor_assoc, byte_xor_raised byte total]
    rfl

theorem feed_window_injective {state : Checksum} {first second : Bytes}
    (length : first.length = second.length) (few : first.length ≤ 4)
    (same : state.feed first = state.feed second) : first = second := by
  have registers := congrArg register same
  rw [register_feed state few, register_feed state (length ▸ few), ← length] at registers
  have words := (UInt32.xor_right_inj _).mp (shift_injective.iterate _ registers)
  have limit : 256 ^ first.length ≤ 256 ^ 4 := Nat.pow_le_pow_right (by decide) few
  have firstSmall : first.toNat < 256 ^ first.length := first.toNat_lt
  have secondSmall : second.toNat < 256 ^ first.length := length ▸ second.toNat_lt
  have numbers := congrArg UInt32.toNat words
  rw [UInt32.toNat_ofNat', UInt32.toNat_ofNat', Nat.mod_eq_of_lt (by omega),
    Nat.mod_eq_of_lt (by omega)] at numbers
  rw [← Bytes.littleEndian_toNat first, ← Bytes.littleEndian_toNat second, numbers, length]

end Checksum

/--
Two byte strings with the same checksum that differ in four consecutive bytes at most are equal.
-/
theorem checksum_window_injective {front first second back : Bytes}
    (length : first.length = second.length) (few : first.length ≤ 4)
    (same : checksum (front ++ first ++ back) = checksum (front ++ second ++ back)) :
    first = second := by
  simp only [checksum, Checksum.finish, Checksum.feed_append, UInt32.xor_left_inj] at same
  have states : (((Checksum.start.feed front).feed first).feed back) =
      (((Checksum.start.feed front).feed second).feed back) := by
    cases final : ((Checksum.start.feed front).feed first).feed back
    cases other : ((Checksum.start.feed front).feed second).feed back
    rw [final, other] at same
    exact congrArg Checksum.mk same
  exact Checksum.feed_window_injective length few (Checksum.feed_injective back states)

end ClusterCoordination
