/-
The address that Server::Server and Socket::connect make of a name.

Both copy the name with strcpy into the sun_path of a zeroed sockaddr_un and pass
SUN_LEN bytes of it to the kernel.  The kernel takes the path up to its first NUL for
the name of a file, and so does unlink with the string itself.
-/

import Mathlib

set_option autoImplicit false

namespace CoreLib

/-- What `c_str()` is to a function that looks for the terminator. -/
def cString (name : List UInt8) : List UInt8 := name.takeWhile (· ≠ 0)

def strlen (bytes : List UInt8) : Nat := (cString bytes).length

/-- The destination after the copy, unless the copy would leave the array. -/
def strcpy (destination source : List UInt8) : Option (List UInt8) :=
  if strlen source < destination.length then
    some (cString source ++ 0 :: destination.drop (strlen source + 1))
  else none

theorem cString_length_le (name : List UInt8) : (cString name).length ≤ name.length :=
  (List.takeWhile_prefix _).length_le

theorem cString_terminated (text rest : List UInt8) :
    cString (cString text ++ 0 :: rest) = cString text := by
  induction text with
  | nil => simp [cString]
  | cons byte text ih =>
      by_cases zero : byte = 0
      · simp [cString, zero]
      · simp only [cString, List.takeWhile_cons, ne_eq, zero, not_false_eq_true, decide_true,
          if_true, List.cons_append] at ih ⊢
        rw [ih]

theorem cString_ne_zero {text : List UInt8} {byte : UInt8} (member : byte ∈ cString text) :
    byte ≠ 0 := by
  simpa using List.mem_takeWhile_imp member

@[simp] theorem cString_cString (text : List UInt8) : cString (cString text) = cString text := by
  unfold cString
  rw [List.takeWhile_eq_self_iff]
  intro byte member
  exact decide_eq_true (cString_ne_zero member)

theorem cString_padded (text : List UInt8) (zeros : Nat) :
    cString (cString text ++ List.replicate zeros 0) = cString text := by
  cases zeros with
  | zero => simp
  | succ zeros => exact cString_terminated text _

/-- `struct sockaddr_un`; `sun_len` exists on Apple platforms only. -/
structure SocketAddress where
  sunLen : Option UInt8
  sunFamily : UInt16
  sunPath : List UInt8
deriving DecidableEq, Repr

namespace SocketAddress

/-- How a platform lays the structure out.  The constant of the assertions leaves room for
the terminator. -/
structure Layout where
  pathSize : Nat
  hasLength : Bool
  roomy : 96 < pathSize

def linux : Layout :=
  { pathSize := 108
    hasLength := false
    roomy := by decide }

def apple : Layout :=
  { pathSize := 104
    hasLength := true
    roomy := by decide }

def AF_UNIX : UInt16 := 1

/-- The bytes in front of sun_path, on both platforms. -/
def headerSize : Nat := 2

/-- `struct sockaddr_un addr = {0}`. -/
def zero (layout : Layout) : SocketAddress :=
  { sunLen := if layout.hasLength then some 0 else none
    sunFamily := 0
    sunPath := List.replicate layout.pathSize 0 }

def sunLength (address : SocketAddress) : Nat := headerSize + strlen address.sunPath

/-- How the construction ends: the assertion on the length fails, strcpy writes behind
the array, or address and length go to bind or connect. -/
inductive Built where
  | aborted
  | overflown
  | passed (address : SocketAddress) (length : Nat)
deriving DecidableEq, Repr

/-- The common part of `Server::Server` and `Socket::connect`. -/
def build (layout : Layout) (name : List UInt8) : Built :=
  if 96 < name.length then .aborted
  else
    let addr := { zero layout with sunFamily := AF_UNIX }
    match strcpy addr.sunPath name with
    | none => .overflown
    | some path =>
        let addr := { addr with sunPath := path }
        let addr :=
          if layout.hasLength then { addr with sunLen := some (UInt8.ofNat addr.sunLength) }
          else addr
        .passed addr addr.sunLength

/-- The file that a path names; the empty path names none. -/
def pathOf (bytes : List UInt8) : Option (List UInt8) :=
  match cString bytes with
  | [] => none
  | byte :: path => some (byte :: path)

/-- The file that the kernel takes from an address of the given length. -/
def fileName (address : SocketAddress) (length : Nat) : Option (List UInt8) :=
  pathOf (address.sunPath.take (length - headerSize))

/-! ### What a name becomes -/

def padded (layout : Layout) (name : List UInt8) : List UInt8 :=
  cString name ++ List.replicate (layout.pathSize - strlen name) 0

def ofName (layout : Layout) (name : List UInt8) : SocketAddress :=
  { sunLen := if layout.hasLength then some (UInt8.ofNat (headerSize + strlen name)) else none
    sunFamily := AF_UNIX
    sunPath := padded layout name }

variable {layout : Layout} {name : List UInt8}

theorem strcpy_zero (fits : strlen name < layout.pathSize) :
    strcpy (zero layout).sunPath name = some (padded layout name) := by
  have size : layout.pathSize - strlen name = layout.pathSize - (strlen name + 1) + 1 := by omega
  simp only [strcpy, zero, List.length_replicate, if_pos fits, List.drop_replicate]
  rw [padded, size, List.replicate_succ]

theorem sunLength_padded (fits : strlen name < layout.pathSize) {address : SocketAddress}
    (path : address.sunPath = padded layout name) :
    address.sunLength = headerSize + strlen name := by
  have size : layout.pathSize - strlen name = layout.pathSize - (strlen name + 1) + 1 := by omega
  rw [sunLength, path, padded, size, List.replicate_succ, strlen, cString_terminated]
  rfl

theorem strlen_fits (layout : Layout) (short : name.length ≤ 96) :
    strlen name < layout.pathSize :=
  Nat.lt_of_le_of_lt (Nat.le_trans (cString_length_le name) short) layout.roomy

/-- The size of sun_path is never reached, and SUN_LEN covers the string alone. -/
theorem build_short (layout : Layout) (short : name.length ≤ 96) :
    build layout name = .passed (ofName layout name) (headerSize + strlen name) := by
  have fits := strlen_fits layout short
  simp only [build, if_neg (Nat.not_lt.mpr short), strcpy_zero fits]
  cases declared : layout.hasLength with
  | false =>
      simp only [Bool.false_eq_true, if_false, sunLength_padded fits, ofName, declared]
      simp [zero, declared]
  | true =>
      simp only [if_true, sunLength_padded fits, ofName, declared]

theorem padded_length (fits : strlen name < layout.pathSize) :
    (padded layout name).length = layout.pathSize := by
  rw [padded, List.length_append, List.length_replicate]
  unfold strlen at fits ⊢
  omega

/-- The kernel and unlink see the same file. -/
theorem fileName_ofName (layout : Layout) (name : List UInt8) :
    fileName (ofName layout name) (headerSize + strlen name) = pathOf name := by
  have taken : (padded layout name).take (headerSize + strlen name - headerSize) =
      cString name := by
    rw [Nat.add_sub_cancel_left, padded]
    exact List.take_left
  rw [fileName, ofName, taken, pathOf, cString_cString, pathOf]

theorem ofName_eq_iff {other : List UInt8} :
    ofName layout name = ofName layout other ↔ cString name = cString other := by
  constructor
  · intro same
    have files := congrArg (fun address => cString address.sunPath) same
    simpa only [ofName, padded, cString_padded] using files
  · intro same
    simp only [ofName, padded, strlen, same]

/-- For every name, the copy stays inside sun_path, the length is that of the header and the
C string, sun_len declares it, and the file is the one that unlink takes.  Two names have
one address exactly when they agree up to the first NUL. -/
theorem build_denotes (layout : Layout) (name : List UInt8) :
    (96 < name.length → build layout name = .aborted) ∧
      (name.length ≤ 96 → ∃ address length, build layout name = .passed address length ∧
        address.sunPath.length = layout.pathSize ∧
        length = headerSize + strlen name ∧ length < headerSize + layout.pathSize ∧
        (∀ declared, address.sunLen = some declared → declared.toNat = length) ∧
        fileName address length = pathOf name) ∧
      ∀ other, name.length ≤ 96 → other.length ≤ 96 →
        (build layout name = build layout other ↔ cString name = cString other) := by
  refine ⟨fun long => if_pos long, ?_, ?_⟩
  · intro short
    have fits := strlen_fits layout short
    have small : strlen name ≤ 96 := Nat.le_trans (cString_length_le name) short
    refine ⟨ofName layout name, headerSize + strlen name, build_short layout short,
      padded_length fits, rfl, Nat.add_lt_add_left fits _, ?_, fileName_ofName layout name⟩
    intro declared same
    simp only [ofName] at same
    split at same
    · cases same
      rw [UInt8.toNat_ofNat']
      apply Nat.mod_eq_of_lt
      unfold headerSize
      omega
    · contradiction
  · intro other short shortToo
    have names := @ofName_eq_iff layout name other
    rw [build_short layout short, build_short layout shortToo, ← names]
    constructor
    · intro same
      exact (Built.passed.inj same).1
    · intro same
      have strings := ofName_eq_iff.mp same
      rw [same, strlen, strings, strlen]

end SocketAddress

end CoreLib
