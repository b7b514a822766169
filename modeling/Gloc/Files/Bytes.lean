import Mathlib.Data.Nat.Digits.Defs
import Mathlib.Data.Vector.Basic

/-!
# Bytes and the numbers they encode

Little-endian numbers, parts of a byte string, and blocks of memory of a fixed
size that are overwritten from their first byte on.
-/

namespace Gloc.Files

def littleEndian (bytes : List UInt8) : Nat :=
  Nat.ofDigits 256 (bytes.map UInt8.toNat)

theorem digit_lt (bytes : List UInt8) : ∀ digit ∈ bytes.map UInt8.toNat, digit < 256 := by
  intro digit membership
  obtain ⟨byte, -, rfl⟩ := List.mem_map.mp membership
  exact byte.toNat_lt

theorem littleEndian_inj {left right : List UInt8} (lengths : left.length = right.length)
    (same : littleEndian left = littleEndian right) : left = right := by
  have digits := Nat.ofDigits_inj_of_len_eq (by decide) (by simpa using lengths)
    (digit_lt left) (digit_lt right) same
  exact List.map_injective_iff.mpr (fun _ _ => UInt8.toNat_inj.mp) digits

/-- The bytes from an offset on, at most `length` of them. -/
def slice (bytes : List UInt8) (offset length : Nat) : List UInt8 :=
  (bytes.drop offset).take length

theorem length_slice (bytes : List UInt8) (offset length : Nat) :
    (slice bytes offset length).length = min length (bytes.length - offset) := by
  simp [slice]

theorem length_slice_of_le {bytes : List UInt8} {offset length : Nat}
    (inside : offset + length ≤ bytes.length) :
    (slice bytes offset length).length = length := by
  rw [length_slice]
  omega

theorem slice_slice {bytes : List UInt8} {offset length inner size : Nat}
    (inside : inner + size ≤ length) :
    slice (slice bytes offset length) inner size = slice bytes (offset + inner) size := by
  rw [slice, slice, slice, List.drop_take, List.take_take, List.drop_drop,
    min_eq_left (by omega)]

theorem slice_append_of_le {bytes late : List UInt8} {offset length : Nat}
    (inside : offset + length ≤ bytes.length) :
    slice (bytes ++ late) offset length = slice bytes offset length := by
  rw [slice, slice, List.drop_append_of_le_length (by omega),
    List.take_append_of_le_length (by rw [List.length_drop]; omega)]

theorem slice_append_slice (bytes : List UInt8) (offset first second : Nat) :
    slice bytes offset first ++ slice bytes (offset + first) second =
      slice bytes offset (first + second) := by
  rw [slice, slice, slice, List.take_add, List.drop_drop]

/-- The number stored at an offset in a field of `width` bytes. -/
def fieldAt (bytes : List UInt8) (offset width : Nat) : Nat :=
  littleEndian (slice bytes offset width)

theorem fieldAt_lt (bytes : List UInt8) (offset width : Nat) :
    fieldAt bytes offset width < 256 ^ width := by
  have digits := Nat.ofDigits_lt_base_pow_length (by decide) (digit_lt (slice bytes offset width))
  refine digits.trans_le (Nat.pow_le_pow_right (by decide) ?_)
  rw [List.length_map, slice]
  exact List.length_take_le ..

theorem fieldAt_slice {bytes : List UInt8} {offset length inner width : Nat}
    (inside : inner + width ≤ length) :
    fieldAt (slice bytes offset length) inner width =
      fieldAt bytes (offset + inner) width := by
  rw [fieldAt, slice_slice inside, fieldAt]

theorem slice_eq_of_fieldAt_eq {left right : List UInt8} {atLeft atRight width : Nat}
    (insideLeft : atLeft + width ≤ left.length) (insideRight : atRight + width ≤ right.length)
    (same : fieldAt left atLeft width = fieldAt right atRight width) :
    slice left atLeft width = slice right atRight width :=
  littleEndian_inj (by rw [length_slice_of_le insideLeft, length_slice_of_le insideRight]) same

/-- An object in memory, byte by byte. -/
abbrev Block (size : Nat) := List.Vector UInt8 size

namespace Block

variable {size : Nat}

/-- Store bytes at the beginning of an object; what does not fit is dropped. -/
def store (block : Block size) (bytes : List UInt8) : Block size :=
  ⟨bytes.take size ++ block.toList.drop bytes.length, by
    rw [List.length_append, List.length_take, List.length_drop, block.toList_length]
    omega⟩

theorem toList_store (block : Block size) (bytes : List UInt8) :
    (block.store bytes).toList = bytes.take size ++ block.toList.drop bytes.length := rfl

theorem toList_store_of_length (block : Block size) {bytes : List UInt8}
    (complete : bytes.length = size) : (block.store bytes).toList = bytes := by
  subst complete
  rw [toList_store, List.take_length, List.drop_eq_nil_of_le, List.append_nil]
  rw [block.toList_length]

theorem slice_store (block : Block size) {bytes : List UInt8} {count : Nat}
    (length : bytes.length = count) (fits : count ≤ size) :
    slice (block.store bytes).toList 0 count = bytes := by
  subst length
  rw [toList_store, List.take_of_length_le fits, slice, List.drop_zero, List.take_left]

def constant (size : Nat) (byte : UInt8) : Block size :=
  ⟨List.replicate size byte, List.length_replicate⟩

theorem exists_store_ne {bytes target : List UInt8} {count : Nat}
    (short : bytes.length < count) (fits : count ≤ size) :
    ∃ byte, slice ((constant size byte).store bytes).toList 0 count ≠ target := by
  have last : ∀ byte,
      (slice ((constant size byte).store bytes).toList 0 count)[count - 1]? = some byte := by
    intro byte
    have whole : bytes.take size = bytes := List.take_of_length_le (by omega)
    have beyond : bytes.length ≤ count - 1 := by omega
    rw [toList_store, whole, slice, List.drop_zero, List.getElem?_take_of_lt (by omega),
      List.getElem?_append_right beyond]
    change (List.drop bytes.length (List.replicate size byte))[count - 1 - bytes.length]? = _
    rw [List.drop_replicate, List.getElem?_replicate, if_pos (by omega)]
  by_contra same
  simp only [not_exists, not_not] at same
  have zero := (last 0).symm.trans (congrArg (·[count - 1]?) (same 0))
  have one := (last 1).symm.trans (congrArg (·[count - 1]?) (same 1))
  cases zero.trans one.symm

def ofPrefix (bytes : List UInt8) (enough : size ≤ bytes.length) : Block size :=
  ⟨bytes.take size, by rw [List.length_take]; omega⟩

end Block

end Gloc.Files
