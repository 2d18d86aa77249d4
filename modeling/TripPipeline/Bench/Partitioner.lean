import Mathlib.Data.Int.Bitwise
import Mathlib.Data.Nat.Bitwise
import TripPipeline.Common.Py

/-!
# Kafka's partitioner

`bench/partition_skew.py` computes the partition of a key offline: `murmur2` on unbounded integers
with masks, `to_positive` and `partition_for`. `Kafka` is the function it ports,
`org.apache.kafka.common.utils.Utils.murmur2`, on 32-bit words: every operation wraps around, `>>>`
shifts zeros in, a byte is signed and masked, and the cases of the `switch` fall through. The length
and the indices of an array are naturals: no array is long enough for an `int` index to wrap.

* `block_toNat`, `mix_toNat`, `tail_toNat`, `last_toNat`: each stage, on the number of a word, is
  the number of the stage on words.
* `index_lt`: no index leaves the key.
* `murmur2_reference`: the whole is Kafka's hash, for every key, and the partitions are the same.
-/

namespace TripPipeline.Bench

open TripPipeline.Common

/-! ## `partition_skew` -/

/-- `data[i]`. -/
def byteAt (data : List UInt8) (i : ℕ) : ℕ := (data.getD i 0).toNat

/-- `length & ~3`. -/
def tailStart (length : ℕ) : ℕ := (Int.land length (Int.lnot 3)).toNat

/-- The four bytes of block `i` as a number. -/
def blockAt (data : List UInt8) (i : ℕ) : ℕ :=
  let i4 := i * 4
  (byteAt data i4 &&& 0xFF) ||| ((byteAt data (i4 + 1) &&& 0xFF) <<< 8) |||
    ((byteAt data (i4 + 2) &&& 0xFF) <<< 16) ||| ((byteAt data (i4 + 3) &&& 0xFF) <<< 24)

/-- The body of the loop over the blocks, with `m = 0x5BD1E995` and `r = 24`. -/
def mixBlock (h k : ℕ) : ℕ :=
  let k := (k * 0x5BD1E995) &&& 0xFFFFFFFF
  let k := k ^^^ (k >>> 24)
  let k := (k * 0x5BD1E995) &&& 0xFFFFFFFF
  let h := (h * 0x5BD1E995) &&& 0xFFFFFFFF
  h ^^^ k

/-- The bytes after the last block. -/
def mixTail (data : List UInt8) (h : ℕ) : ℕ :=
  let rem := data.length % 4
  let start := tailStart data.length
  let h := if rem = 3 then h ^^^ ((byteAt data (start + 2) &&& 0xFF) <<< 16) else h
  let h := if 2 ≤ rem then h ^^^ ((byteAt data (start + 1) &&& 0xFF) <<< 8) else h
  if 1 ≤ rem then ((h ^^^ (byteAt data start &&& 0xFF)) * 0x5BD1E995) &&& 0xFFFFFFFF else h

/-- The last three lines before the result. -/
def mixLast (h : ℕ) : ℕ :=
  let h := h ^^^ (h >>> 13)
  let h := (h * 0x5BD1E995) &&& 0xFFFFFFFF
  h ^^^ (h >>> 15)

/-- Kafka's murmur2, on Python's integers.
Source: `bench/partition_skew.py` `murmur2` -/
def murmur2 (data : List UInt8) : ℕ :=
  let h := (0x9747B28C ^^^ data.length) &&& 0xFFFFFFFF
  let h := (List.range (data.length / 4)).foldl (fun h i => mixBlock h (blockAt data i)) h
  mixLast (mixTail data h) &&& 0xFFFFFFFF

/-- `x & 0x7FFFFFFF`. -/
def toPositive (x : ℕ) : ℕ := x &&& 0x7FFFFFFF

/-- The partition of a key.
Source: `bench/partition_skew.py` `partition_for` -/
def partitionFor (key : String) (numPartitions : ℤ) : Except Exc ℤ :=
  if numPartitions = 0 then
    .error ⟨"ZeroDivisionError", "integer modulo by zero", []⟩
  else .ok (Int.fmod (toPositive (murmur2 key.toUTF8.toList)) numPartitions)

/-! ## The function it ports -/

namespace Kafka

/-- `data[i] & 0xff` of a signed byte. -/
def byteAt (data : List (BitVec 8)) (i : ℕ) : BitVec 32 := (data.getD i 0).signExtend 32 &&& 0xff#32

/-- The four bytes of block `i`. -/
def blockAt (data : List (BitVec 8)) (i : ℕ) : BitVec 32 :=
  let i4 := i * 4
  byteAt data (i4 + 0) + (byteAt data (i4 + 1) <<< 8) + (byteAt data (i4 + 2) <<< 16) +
    (byteAt data (i4 + 3) <<< 24)

/-- The body of the loop. -/
def mixBlock (h k : BitVec 32) : BitVec 32 :=
  let k := k * 0x5bd1e995#32
  let k := k ^^^ (k >>> 24)
  let k := k * 0x5bd1e995#32
  let h := h * 0x5bd1e995#32
  h ^^^ k

/-- The `switch` over the bytes after the last block. -/
def mixTail (data : List (BitVec 8)) (h : BitVec 32) : BitVec 32 :=
  let start := tailStart data.length
  let case1 (h : BitVec 32) := (h ^^^ byteAt data start) * 0x5bd1e995#32
  let case2 (h : BitVec 32) := case1 (h ^^^ (byteAt data (start + 1) <<< 8))
  let case3 (h : BitVec 32) := case2 (h ^^^ (byteAt data (start + 2) <<< 16))
  match data.length % 4 with
  | 3 => case3 h
  | 2 => case2 h
  | 1 => case1 h
  | _ => h

/-- The last three lines before the result. -/
def mixLast (h : BitVec 32) : BitVec 32 :=
  let h := h ^^^ (h >>> 13)
  let h := h * 0x5bd1e995#32
  h ^^^ (h >>> 15)

/-- `Utils.murmur2`. -/
def murmur2 (data : List (BitVec 8)) : BitVec 32 :=
  let h := 0x9747b28c#32 ^^^ BitVec.ofNat 32 data.length
  let h := (List.range (data.length / 4)).foldl (fun h i => mixBlock h (blockAt data i)) h
  mixLast (mixTail data h)

/-- `Utils.toPositive`. -/
def toPositive (number : BitVec 32) : BitVec 32 := number &&& 0x7fffffff#32

/-- `toPositive(murmur2(keyBytes)) % numPartitions`. -/
def partition (keyBytes : List (BitVec 8)) (numPartitions : ℤ) : ℤ :=
  (toPositive (murmur2 keyBytes)).toInt.tmod numPartitions

end Kafka

/-! ## Stage by stage -/

/-- The bytes as signed ones: the same bits. -/
def signedBytes (data : List UInt8) : List (BitVec 8) := data.map UInt8.toBitVec

/-- Java sees as many bytes as Python does. -/
@[simp] theorem length_signedBytes (data : List UInt8) :
    (signedBytes data).length = data.length := List.length_map ..

/-- Python's mask keeps the last 32 bits. -/
theorem and_mask (x : ℕ) : x &&& 0xFFFFFFFF = x % 2 ^ 32 := Nat.and_two_pow_sub_one_eq_mod x 32

/-- Java's `& 0xff` takes back the sign extension of a byte. -/
theorem signExtend_mask (b : BitVec 8) : (b.signExtend 32 &&& 0xff#32).toNat = b.toNat := by
  revert b
  decide

/-- A byte is below 256. -/
theorem byteAt_lt (data : List UInt8) (i : ℕ) : byteAt data i < 2 ^ 8 := (data.getD i 0).toNat_lt

/-- Python's `& 0xFF` leaves a byte alone. -/
theorem byteAt_and_mask (data : List UInt8) (i : ℕ) : byteAt data i &&& 0xFF = byteAt data i := by
  rw [Nat.and_two_pow_sub_one_eq_mod _ 8, Nat.mod_eq_of_lt (byteAt_lt data i)]

/-- Signed and masked, a byte is the number it is in Python. -/
theorem byteAt_toNat (data : List UInt8) (i : ℕ) :
    (Kafka.byteAt (signedBytes data) i).toNat = byteAt data i := by
  rw [Kafka.byteAt, signExtend_mask, byteAt, signedBytes, List.getD_eq_getElem?_getD,
    List.getD_eq_getElem?_getD, List.getElem?_map]
  cases data[i]? <;> rfl

/-- A byte shifted by at most 24 places is the same number on both sides. -/
theorem shift_toNat (data : List UInt8) (i : ℕ) {s : ℕ} (hs : s ≤ 24) :
    (Kafka.byteAt (signedBytes data) i <<< s).toNat = byteAt data i <<< s := by
  have hlt : byteAt data i <<< s < 2 ^ 32 := by
    rw [Nat.shiftLeft_eq]
    calc byteAt data i * 2 ^ s < 2 ^ 8 * 2 ^ s :=
          Nat.mul_lt_mul_of_pos_right (byteAt_lt data i) (Nat.two_pow_pos s)
      _ = 2 ^ (8 + s) := (Nat.pow_add 2 8 s).symm
      _ ≤ 2 ^ 32 := Nat.pow_le_pow_right two_pos (by omega)
  rw [BitVec.toNat_shiftLeft, byteAt_toNat, Nat.mod_eq_of_lt hlt]

/-- The four bytes do not overlap: adding them is joining them. -/
theorem block_toNat (data : List UInt8) (i : ℕ) :
    (Kafka.blockAt (signedBytes data) i).toNat = blockAt data i := by
  have h0 := byteAt_lt data (i * 4)
  have h1 := byteAt_lt data (i * 4 + 1)
  have h2 := byteAt_lt data (i * 4 + 2)
  have h3 := byteAt_lt data (i * 4 + 3)
  have hjoin : blockAt data i = byteAt data (i * 4) + byteAt data (i * 4 + 1) <<< 8 +
      byteAt data (i * 4 + 2) <<< 16 + byteAt data (i * 4 + 3) <<< 24 := by
    simp only [blockAt, byteAt_and_mask]
    rw [Nat.or_comm (byteAt data (i * 4)), ← Nat.shiftLeft_add_eq_or_of_lt h0,
      Nat.or_comm _ (byteAt data (i * 4 + 2) <<< 16), ← Nat.shiftLeft_add_eq_or_of_lt (i := 16),
      Nat.or_comm _ (byteAt data (i * 4 + 3) <<< 24), ← Nat.shiftLeft_add_eq_or_of_lt (i := 24)]
    · omega
    · rw [Nat.shiftLeft_eq, Nat.shiftLeft_eq]
      omega
    · rw [Nat.shiftLeft_eq]
      omega
  rw [hjoin]
  simp only [Kafka.blockAt, BitVec.toNat_add, shift_toNat data _ (show 8 ≤ 24 by norm_num),
    shift_toNat data _ (show 16 ≤ 24 by norm_num), shift_toNat data _ le_rfl, byteAt_toNat,
    Nat.add_zero]
  simp only [Nat.shiftLeft_eq]
  omega

/-- A masked product with `m` is the product of words. -/
theorem mul_and_mask (v : BitVec 32) :
    (v.toNat * 0x5BD1E995) &&& 0xFFFFFFFF = (v * 0x5bd1e995#32).toNat := by
  rw [and_mask, BitVec.toNat_mul]
  rfl

/-- The mixing of a block is the same number on both sides. -/
theorem mix_toNat (h k : BitVec 32) : mixBlock h.toNat k.toNat = (Kafka.mixBlock h k).toNat := by
  simp only [mixBlock, Kafka.mixBlock, mul_and_mask, ← BitVec.toNat_ushiftRight,
    ← BitVec.toNat_xor]

/-- The closing avalanche is the same number on both sides. -/
theorem last_toNat (h : BitVec 32) : mixLast h.toNat = (Kafka.mixLast h).toNat := by
  simp only [mixLast, Kafka.mixLast, mul_and_mask, ← BitVec.toNat_ushiftRight,
    ← BitVec.toNat_xor]

/-- The three tests on the rest of the length are the `switch` with its falling through. -/
theorem tail_toNat (data : List UInt8) (h : BitVec 32) :
    mixTail data h.toNat = (Kafka.mixTail (signedBytes data) h).toNat := by
  have hlt : data.length % 4 < 4 := Nat.mod_lt _ (by norm_num)
  have h8 := fun i => shift_toNat data i (show 8 ≤ 24 by norm_num)
  have h16 := fun i => shift_toNat data i (show 16 ≤ 24 by norm_num)
  unfold mixTail Kafka.mixTail
  rw [length_signedBytes]
  generalize data.length % 4 = rem at hlt ⊢
  match rem, hlt with
  | 0, _ => rfl
  | 1, _ | 2, _ | 3, _ =>
      simp only [byteAt_and_mask, ← mul_and_mask, BitVec.toNat_xor, byteAt_toNat, h8, h16,
        Nat.reduceEqDiff, Nat.reduceLeDiff, if_true, if_false, le_refl]

/-! ## The whole -/

/-- The start of the rest: the length without its remainder. -/
theorem tailStart_eq (length : ℕ) : tailStart length = 4 * (length / 4) := by
  have hland : tailStart length = Nat.ldiff length 3 := rfl
  have hshift : 4 * (length / 4) = (length >>> 2) <<< 2 := by
    rw [Nat.shiftLeft_eq, Nat.shiftRight_eq_div_pow, Nat.mul_comm]
  rw [hland, hshift]
  apply Nat.eq_of_testBit_eq
  intro i
  rw [Nat.testBit_ldiff, Nat.testBit_shiftLeft, Nat.testBit_shiftRight]
  match i with
  | 0 => simp
  | 1 => simp [Nat.testBit]
  | i + 2 =>
      have hthree : Nat.testBit 3 (i + 2) = false := Nat.testBit_lt_two_pow
        (Nat.lt_of_lt_of_le (by norm_num) (Nat.pow_le_pow_right two_pos (Nat.le_add_left 2 i)))
      simp [hthree, Nat.add_comm]

/-- Every index read is one of the key. -/
theorem index_lt (length : ℕ) :
    (∀ i < length / 4, ∀ j < 4, i * 4 + j < length) ∧
      ∀ j < length % 4, tailStart length + j < length := by
  constructor
  · intro i hi j hj
    omega
  · intro j hj
    rw [tailStart_eq]
    omega

/-- **The loop over the blocks.** -/
theorem blocks_toNat (data : List UInt8) (h : BitVec 32) (blocks : List ℕ) :
    blocks.foldl (fun h i => mixBlock h (blockAt data i)) h.toNat =
      (blocks.foldl (fun h i =>
        Kafka.mixBlock h (Kafka.blockAt (signedBytes data) i)) h).toNat := by
  induction blocks generalizing h with
  | nil => rfl
  | cons i blocks ih =>
      rw [List.foldl_cons, List.foldl_cons, ← block_toNat, mix_toNat, ih]

/-- **`murmur2` is Kafka's**, as a number. -/
theorem murmur2_toNat (data : List UInt8) :
    murmur2 data = (Kafka.murmur2 (signedBytes data)).toNat := by
  have hseed : (0x9747B28C ^^^ data.length) &&& 0xFFFFFFFF =
      (0x9747b28c#32 ^^^ BitVec.ofNat 32 data.length).toNat := by
    rw [and_mask, BitVec.toNat_xor, Nat.xor_mod_two_pow, BitVec.toNat_ofNat]
    rfl
  have hmask : ∀ v : BitVec 32, v.toNat &&& 0xFFFFFFFF = v.toNat := by
    intro v
    rw [and_mask, Nat.mod_eq_of_lt v.isLt]
  unfold murmur2 Kafka.murmur2
  simp only [length_signedBytes, hseed, blocks_toNat, tail_toNat, last_toNat, hmask]

/-- Clearing the sign bit is the same number on both sides. -/
theorem toPositive_toNat (h : BitVec 32) :
    toPositive h.toNat = (Kafka.toPositive h).toNat := by
  rw [toPositive, Kafka.toPositive, BitVec.toNat_and]
  rfl

/-- A positive word is its number, and `%` of positive numbers is the remainder. -/
theorem partition_eq (data : List UInt8) {n : ℤ} (hn : 1 ≤ n) :
    Int.fmod (toPositive (murmur2 data)) n = Kafka.partition (signedBytes data) n := by
  have hlt : (Kafka.toPositive (Kafka.murmur2 (signedBytes data))).toNat < 2 ^ 31 := by
    rw [Kafka.toPositive, BitVec.toNat_and]
    exact Nat.and_lt_two_pow _ (by decide)
  rw [murmur2_toNat, toPositive_toNat, Kafka.partition, BitVec.toInt_eq_toNat_of_lt (by omega),
    Int.fmod_eq_emod_of_nonneg _ (by omega), Int.tmod_eq_emod_of_nonneg (Int.natCast_nonneg _)]

/-- **`murmur2` is Kafka's hash, and the partition of every key is Kafka's.** -/
theorem murmur2_reference {n : ℤ} (hn : 1 ≤ n) :
    (∀ data : List UInt8,
        BitVec.ofNat 32 (murmur2 data) = Kafka.murmur2 (signedBytes data)) ∧
      (∀ data : List UInt8,
        Int.fmod (toPositive (murmur2 data)) n = Kafka.partition (signedBytes data) n) ∧
      ∀ key : String, partitionFor key n =
        .ok (Kafka.partition (signedBytes key.toUTF8.toList) n) := by
  refine ⟨fun data => ?_, fun data => partition_eq data hn, fun key => ?_⟩
  · rw [murmur2_toNat, BitVec.ofNat_toNat, BitVec.setWidth_eq]
  · rw [partitionFor, if_neg (by omega), partition_eq _ hn]

/-- The key `nyc` on six partitions. -/
theorem murmur2_reference_nyc :
    BitVec.ofNat 32 (murmur2 [110, 121, 99]) = Kafka.murmur2 (signedBytes [110, 121, 99]) ∧
      Int.fmod (toPositive (murmur2 [110, 121, 99])) 6 =
        Kafka.partition (signedBytes [110, 121, 99]) 6 :=
  ⟨(murmur2_reference (n := 6) (by norm_num)).1 [110, 121, 99],
    (murmur2_reference (n := 6) (by norm_num)).2.1 [110, 121, 99]⟩

/-- The hash of `foobar`, and of a key without a whole block. -/
example : (Kafka.murmur2 (signedBytes [102, 111, 111, 98, 97, 114])).toInt = -790332482 ∧
    (Kafka.murmur2 (signedBytes [97, 98, 99])).toInt = 479470107 := by decide +kernel

end TripPipeline.Bench
