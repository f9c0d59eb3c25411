/-
Fixed-width little-endian fields inside a byte list.

`littleEndian` writes a number into a given number of bytes and drops what does
not fit; `fieldAt` reads a field at an offset.  The two's complement conversions
at the end are for 32-bit integers stored in such fields.
-/

import Mathlib

set_option autoImplicit false

namespace CoreLib.Foundation

def littleEndian : Nat → Nat → List UInt8
  | 0, _ => []
  | width + 1, value => UInt8.ofNat (value % 256) :: littleEndian width (value / 256)

def fromLittleEndian : List UInt8 → Nat
  | [] => 0
  | byte :: rest => byte.toNat + 256 * fromLittleEndian rest

def fieldAt (width : Nat) (bytes : List UInt8) (offset : Nat) : Nat :=
  fromLittleEndian ((bytes.drop offset).take width)

@[simp] theorem littleEndian_length (width value : Nat) :
    (littleEndian width value).length = width := by
  induction width generalizing value with
  | zero => rfl
  | succ width ih => rw [littleEndian, List.length_cons, ih]

theorem fromLittleEndian_littleEndian {width value : Nat} (fits : value < 256 ^ width) :
    fromLittleEndian (littleEndian width value) = value := by
  induction width generalizing value with
  | zero =>
      rw [Nat.pow_zero] at fits
      have zero : value = 0 := by omega
      subst value
      rfl
  | succ width ih =>
      have quotient : value / 256 < 256 ^ width := by
        apply Nat.div_lt_of_lt_mul
        rw [Nat.mul_comm, ← Nat.pow_succ]
        exact fits
      have byte : (UInt8.ofNat (value % 256)).toNat = value % 256 := by
        rw [UInt8.toNat_ofNat']
        exact Nat.mod_mod value 256
      rw [littleEndian, fromLittleEndian, ih quotient, byte]
      exact Nat.mod_add_div value 256

/-- A field is read back whatever stands before and after it. -/
theorem fieldAt_append {width value : Nat} (fits : value < 256 ^ width)
    (before after : List UInt8) :
    fieldAt width (before ++ (littleEndian width value ++ after)) before.length = value := by
  rw [fieldAt, List.drop_left]
  have whole : (littleEndian width value ++ after).take width = littleEndian width value :=
    List.take_left' (littleEndian_length width value)
  rw [whole, fromLittleEndian_littleEndian fits]

def fieldsFrom (width : Nat) : Nat → List UInt8 → List Nat
  | 0, _ => []
  | count + 1, bytes =>
      fromLittleEndian (bytes.take width) :: fieldsFrom width count (bytes.drop width)

def writeFields (width : Nat) (values : List Nat) : List UInt8 :=
  values.flatMap (littleEndian width)

theorem writeFields_length (width : Nat) (values : List Nat) :
    (writeFields width values).length = width * values.length := by
  induction values with
  | nil => rfl
  | cons value rest ih =>
      rw [writeFields, List.flatMap_cons, List.length_append, littleEndian_length,
        List.length_cons, Nat.mul_succ]
      rw [writeFields] at ih
      omega

theorem fieldsFrom_writeFields {width : Nat} {values : List Nat}
    (fit : ∀ value ∈ values, value < 256 ^ width) (after : List UInt8) :
    fieldsFrom width values.length (writeFields width values ++ after) = values := by
  induction values with
  | nil => rfl
  | cons value rest ih =>
      have here := fit value (List.mem_cons_self ..)
      have later := ih fun other member => fit other (List.mem_cons_of_mem _ member)
      rw [List.length_cons, fieldsFrom, writeFields, List.flatMap_cons, List.append_assoc,
        List.take_left' (littleEndian_length width value),
        List.drop_left' (littleEndian_length width value),
        fromLittleEndian_littleEndian here]
      rw [writeFields] at later
      rw [later]

/-- The unsigned image of a 32-bit integer. -/
def toWord32 (value : Int) : Nat := (value % 2 ^ 32).toNat

def ofWord32 (word : Nat) : Int :=
  if word % 2 ^ 32 < 2 ^ 31 then ((word % 2 ^ 32 : Nat) : Int)
  else ((word % 2 ^ 32 : Nat) : Int) - 2 ^ 32

theorem toWord32_lt (value : Int) : toWord32 value < 256 ^ 4 := by
  unfold toWord32
  omega

theorem ofWord32_range (word : Nat) : -2 ^ 31 ≤ ofWord32 word ∧ ofWord32 word < 2 ^ 31 := by
  unfold ofWord32
  split <;> omega

theorem ofWord32_toWord32 {value : Int} (lower : -2 ^ 31 ≤ value) (upper : value < 2 ^ 31) :
    ofWord32 (toWord32 value) = value := by
  unfold ofWord32 toWord32
  split <;> omega

end CoreLib.Foundation
