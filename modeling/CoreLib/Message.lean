/-
The growable message buffer of Message.h and Message.cpp.

`Message` has the fields of the class.  The three bounds that relate them are
fields of the structure, so that no operation can build a message whose cursors
leave the allocated block.  An operation that would fail a CL_ASSERT or copy
outside the block has no result (`none`).  The outcome of malloc or realloc is an
argument: absent for a failure, otherwise the contents of the bytes that the
allocator does not initialise.  size_t is taken to have 64 bits.
-/

import CoreLib.Foundation.BitSmear

set_option autoImplicit false

namespace CoreLib

open Foundation

/-- An attachment holds an `int`; the bounds are those of the C type. -/
structure Attachment where
  handle : Int
  lower : -2 ^ 31 ≤ handle
  upper : handle < 2 ^ 31
deriving DecidableEq, Repr

/-- `sizeof` of a complete object type: positive and at most PTRDIFF_MAX. -/
structure ObjectSize where
  bytes : Nat
  positive : 0 < bytes
  bounded : bytes < 2 ^ 63

/-- The object representation of a value handed to `encode`. -/
structure Value where
  bytes : List UInt8
  positive : 0 < bytes.length
  bounded : bytes.length < 2 ^ 63

def Value.size (value : Value) : ObjectSize :=
  { bytes := value.bytes.length
    positive := value.positive
    bounded := value.bounded }

/-- What one call of malloc or realloc did. -/
abbrev Allocation := Option (Nat → UInt8)

structure Message where
  buffer : Option (List UInt8)
  bufferLength : Nat
  dataLength : Nat
  sizeRead : Nat
  attachments : List Attachment
  blockLength : (buffer.getD []).length = bufferLength
  dataWithin : dataLength ≤ bufferLength
  readWithin : sizeRead ≤ bufferLength

namespace Message

def size (message : Message) : Nat := message.dataLength

/-- The allocated block; a null `_buffer` owns no bytes. -/
def block (message : Message) : List UInt8 := message.buffer.getD []

def contents (message : Message) : List UInt8 := message.block.take message.dataLength

def Message_NextPOTSize (length : Nat) : Nat :=
  let x := (length + (2 ^ 64 - 1)) % 2 ^ 64
  let x := x ||| (x >>> 1)
  let x := x ||| (x >>> 2)
  let x := x ||| (x >>> 4)
  let x := x ||| (x >>> 8)
  let x := x ||| (x >>> 16)
  (x + 1) % 2 ^ 64

def resizeBuffer (message : Message) (size : Nat) (allocation : Allocation) :
    Option (Bool × Message) :=
  match held : message.buffer with
  | none =>
      if message.bufferLength = 0 then
        match allocation with
        | none => some (false, message)
        | some fill => some (true,
            { message with
              buffer := some ((List.range size).map fill)
              bufferLength := size
              blockLength := by simp
              dataWithin := by
                have data := message.dataWithin
                have length := message.blockLength
                rw [held, Option.getD_none, List.length_nil] at length
                omega
              readWithin := by
                have read := message.readWithin
                have length := message.blockLength
                rw [held, Option.getD_none, List.length_nil] at length
                omega })
      else none
  | some old =>
      if grows : message.bufferLength < size then
        match allocation with
        | none => some (false, message)
        | some fill => some (true,
            { message with
              buffer := some (old ++ (List.range (size - message.bufferLength)).map fill)
              bufferLength := size
              blockLength := by
                have length := message.blockLength
                rw [held, Option.getD_some] at length
                simp only [Option.getD_some, List.length_append, List.length_map,
                  List.length_range, length]
                omega
              dataWithin := Nat.le_trans message.dataWithin (Nat.le_of_lt grows)
              readWithin := Nat.le_trans message.readWithin (Nat.le_of_lt grows) })
      else none

def reserve (message : Message) (length : Nat) (allocation : Allocation) :
    Option (Bool × Message) :=
  if length = 0 ∨ length ≤ message.bufferLength then
    some (true, message)
  else
    message.resizeBuffer (Message_NextPOTSize length) allocation

def empty : Message :=
  { buffer := none
    bufferLength := 0
    dataLength := 0
    sizeRead := 0
    attachments := []
    blockLength := rfl
    dataWithin := Nat.le_refl 0
    readWithin := Nat.le_refl 0 }

def oneByte (attachments : List Attachment) : Message :=
  { buffer := some [7]
    bufferLength := 1
    dataLength := 1
    sizeRead := 0
    attachments := attachments
    blockLength := rfl
    dataWithin := Nat.le_refl 1
    readWithin := Nat.zero_le 1 }

/-- `Message::Message(size_t)`; the result of `reserve` is ignored. -/
def create (reservedLength : Nat) (allocation : Allocation) : Option Message :=
  (empty.reserve reservedLength allocation).map Prod.snd

/-- `Message::Message(const uint8_t *, size_t)`.  Copying into a failed
allocation is not defined. -/
def ofBuffer (bytes : List UInt8) (allocation : Allocation) : Option Message :=
  allocation.map fun _ =>
    { buffer := some bytes
      bufferLength := bytes.length
      dataLength := bytes.length
      sizeRead := 0
      attachments := []
      blockLength := rfl
      dataWithin := Nat.le_refl _
      readWithin := Nat.zero_le _ }

/-- memcpy to `_buffer + _dataLength`, followed by the advance of `_dataLength`. -/
def append (message : Message) (bytes : List UInt8) : Option Message :=
  if within : message.dataLength + bytes.length ≤ message.bufferLength then
    some
      { message with
        buffer := some (message.block.take message.dataLength ++ bytes ++
          message.block.drop (message.dataLength + bytes.length))
        dataLength := message.dataLength + bytes.length
        blockLength := by
          have length : message.block.length = message.bufferLength := message.blockLength
          simp only [Option.getD_some, List.length_append, List.length_take,
            List.length_drop, length]
          omega
        dataWithin := within }
  else none

def encode (message : Message) (value : Value) (allocation : Allocation) :
    Option (Bool × Message) :=
  match message.reserve ((message.dataLength + value.bytes.length) % 2 ^ 64) allocation with
  | none => none
  | some (false, unchanged) => some (false, unchanged)
  | some (true, reserved) =>
      (reserved.append value.bytes).map fun written => (true, written)

/-- The bytes copied into the argument, absent when `decode` returns false. -/
def decode (message : Message) (size : ObjectSize) : Option (Option (List UInt8) × Message) :=
  if message.bufferLength < (size.bytes + message.sizeRead) % 2 ^ 64 then
    some (none, message)
  else if within : message.sizeRead + size.bytes ≤ message.bufferLength then
    some (some ((message.block.drop message.sizeRead).take size.bytes),
      { message with
        sizeRead := message.sizeRead + size.bytes
        readWithin := within })
  else none

/-- `Socket::MaxControlBufferItemCount`, the limit `addAttachment` compares with. -/
def MaxControlBufferItemCount : Nat := 8

def addAttachment (message : Message) (attachment : Attachment) : Option Message :=
  if message.attachments.length ≤ MaxControlBufferItemCount then
    some { message with attachments := message.attachments ++ [attachment] }
  else none

end Message

end CoreLib
