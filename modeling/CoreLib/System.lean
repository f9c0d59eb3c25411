/-
What the library sees of the operating system.

A system call yields a result and the value of errno after it; a successful call
leaves errno unspecified, so the two are independent.  EWOULDBLOCK has the value
of EAGAIN on both supported platforms and is not a separate number.
-/

import Mathlib

set_option autoImplicit false

namespace CoreLib

inductive Errno where
  | EINTR
  | EAGAIN
  | EPIPE
  | EBADF
  | other (number : Nat)
deriving DecidableEq, Repr

structure SysResult where
  rc : Int
  errno : Errno
deriving DecidableEq, Repr

def SysResult.failure (errno : Errno) : SysResult := { rc := -1, errno := errno }

/-- `CL_TEMP_FAILURE_RETRY` repeats the call exactly when this holds. -/
def SysResult.Interrupted (result : SysResult) : Prop :=
  result.rc = -1 ∧ result.errno = .EINTR

instance (result : SysResult) : Decidable result.Interrupted :=
  inferInstanceAs (Decidable (result.rc = -1 ∧ result.errno = .EINTR))

/-- `errno == EAGAIN || errno == EWOULDBLOCK` after a failed call. -/
def SysResult.WouldBlock (result : SysResult) : Prop :=
  result.rc = -1 ∧ result.errno = .EAGAIN

instance (result : SysResult) : Decidable result.WouldBlock :=
  inferInstanceAs (Decidable (result.rc = -1 ∧ result.errno = .EAGAIN))

/-- The conversion of an int operand to size_t in a mixed comparison. -/
def sizeOfInt (value : Int) : Nat := (value % 2 ^ 64).toNat

theorem sizeOfInt_cast {size : Nat} (small : size < 2 ^ 64) : sizeOfInt (size : Int) = size := by
  unfold sizeOfInt
  omega

/-- The number of a descriptor that a process has open. -/
abbrev Descriptor := Fin (2 ^ 31)

/-- The identity of an open file description. -/
abbrev OpenFile := Nat

/-- A process's descriptor table. -/
abbrev DescriptorTable := Int → Option OpenFile

end CoreLib
