/-
Control buffers as bytes.

The CMSG arithmetic and header layout are those of 64-bit Linux: a header is an
8-byte length, a 4-byte level and a 4-byte type, and items are aligned to 8 bytes.
A control buffer is the list of its first `msg_controllen` bytes.  Writer, kernel
and reader each have their own function over these bytes.  The reader starts its loop
with a null header, which the platforms do not treat alike.
-/

import CoreLib.Foundation.LittleEndian
import CoreLib.Message
import CoreLib.System

set_option autoImplicit false

namespace CoreLib

open Foundation

def SOL_SOCKET : Nat := 1

def SCM_RIGHTS : Nat := 1

def cmsghdrSize : Nat := 16

def ControlBufferItemSize : Nat := 4

def CMSG_ALIGN (length : Nat) : Nat := (length + 7) / 8 * 8

def CMSG_LEN (length : Nat) : Nat := CMSG_ALIGN cmsghdrSize + length

def CMSG_SPACE (length : Nat) : Nat := CMSG_ALIGN length + CMSG_ALIGN cmsghdrSize

def MaxControlBufferSize : Nat :=
  CMSG_SPACE (ControlBufferItemSize * Message.MaxControlBufferItemCount)

namespace Control

def header (length level kind : Nat) : List UInt8 :=
  littleEndian 8 length ++ littleEndian 4 level ++ littleEndian 4 kind

def cmsg_len (control : List UInt8) (cmsgh : Nat) : Nat := fieldAt 8 control cmsgh

def cmsg_level (control : List UInt8) (cmsgh : Nat) : Nat := fieldAt 4 control (cmsgh + 8)

def cmsg_type (control : List UInt8) (cmsgh : Nat) : Nat := fieldAt 4 control (cmsgh + 12)

/-- The bytes that start at `CMSG_DATA(cmsgh)`. -/
def CMSG_DATA (control : List UInt8) (cmsgh : Nat) : List UInt8 :=
  control.drop (cmsgh + cmsghdrSize)

def CMSG_FIRSTHDR (control : List UInt8) : Option Nat :=
  if control.length < cmsghdrSize then none else some 0

/-- What CMSG_NXTHDR makes of a null header: the first header, or a read through the null
pointer, which ends the process. -/
inductive NullHeader where
  | yieldsFirst
  | dereferenced
deriving DecidableEq, Repr

/-- The offset of the header after `cmsgh`, with no result at all when the process ends. -/
def CMSG_NXTHDR (nullHeader : NullHeader) (control : List UInt8) :
    Option Nat → Option (Option Nat)
  | none =>
      match nullHeader with
      | .yieldsFirst => some (CMSG_FIRSTHDR control)
      | .dereferenced => none
  | some cmsgh =>
      let length := cmsg_len control cmsgh
      let next := cmsgh + CMSG_ALIGN length
      if length < cmsghdrSize then some none
      else if control.length < next + cmsghdrSize then some none
      else if control.length < next + CMSG_ALIGN (cmsg_len control next) then some none
      else some (some next)

/-- An SCM_RIGHTS item with the given descriptor numbers, without trailing padding. -/
def rightsItem (descriptors : List Int) : List UInt8 :=
  header (CMSG_LEN (ControlBufferItemSize * descriptors.length)) SOL_SOCKET SCM_RIGHTS ++
    writeFields 4 (descriptors.map toWord32)

/-- What `WriteMessage` passes in `msg_control`. -/
def written (descriptors : List Int) : List UInt8 :=
  if descriptors.length = 0 then [] else rightsItem descriptors

/-- The descriptor numbers that the sending kernel finds from a header on, unless it refuses
the buffer: a header has to cover itself and stay inside the buffer, items of other levels
are skipped, and items of this level have to be descriptors.  Each round moves at least
one header further. -/
def passedFrom (control : List UInt8) : Nat → Nat → Option (List Int)
  | 0, _ => some []
  | rounds + 1, cmsgh =>
      let length := cmsg_len control cmsgh
      if control.length < cmsgh + cmsghdrSize then some []
      else if length < cmsghdrSize ∨ control.length < cmsgh + length then none
      else if cmsg_level control cmsgh ≠ SOL_SOCKET then
        passedFrom control rounds (cmsgh + CMSG_ALIGN length)
      else if cmsg_type control cmsgh ≠ SCM_RIGHTS then none
      else
        (passedFrom control rounds (cmsgh + CMSG_ALIGN length)).map fun rest =>
          (fieldsFrom 4 ((length - cmsghdrSize) / ControlBufferItemSize)
            (CMSG_DATA control cmsgh)).map ofWord32 ++ rest

def passed (control : List UInt8) : Option (List Int) := passedFrom control control.length 0

/-- What the receiving kernel leaves in `_controlBuffer` for the descriptors it
installed: one item, padded to its aligned size. -/
def received (descriptors : List Descriptor) : List UInt8 :=
  if descriptors.length = 0 then []
  else
    let payload := ControlBufferItemSize * descriptors.length
    rightsItem (descriptors.map fun descriptor => (descriptor.val : Int)) ++
      List.replicate (CMSG_SPACE payload - CMSG_LEN payload) 0

/-- The control header loop of `ReadMessages`, with every CL_ASSERT in it.  Each
round moves at least one header further, so the length of the buffer bounds the
number of rounds. -/
def collect (nullHeader : NullHeader) (control : List UInt8) :
    Nat → Option Nat → Message → Option Message
  | 0, _, message => some message
  | rounds + 1, cmsgh, message =>
      match CMSG_NXTHDR nullHeader control cmsgh with
      | none => none
      | some none => some message
      | some (some next) =>
          if cmsg_level control next ≠ SOL_SOCKET then none
          else if cmsg_type control next ≠ SCM_RIGHTS then none
          else if cmsg_len control next ≠ CMSG_LEN ControlBufferItemSize then none
          else
            let word := fromLittleEndian
              ((CMSG_DATA control next).take ControlBufferItemSize)
            let attachment : Attachment :=
              { handle := ofWord32 word
                lower := (ofWord32_range word).1
                upper := (ofWord32_range word).2 }
            if attachment.handle = -1 then none
            else
              match message.addAttachment attachment with
              | none => none
              | some extended => collect nullHeader control rounds (some next) extended

/-- `ReadMessages` enters the loop only when `msg_controllen` is not zero. -/
def attach (nullHeader : NullHeader) (control : List UInt8) (message : Message) :
    Option Message :=
  if control.length = 0 then some message
  else collect nullHeader control control.length none message

/-! ### Reading back one item -/

theorem header_length (length level kind : Nat) : (header length level kind).length = 16 := by
  simp only [header, List.length_append, littleEndian_length]

theorem cmsg_len_header {length : Nat} (fits : length < 256 ^ 8) (level kind : Nat)
    (rest : List UInt8) : cmsg_len (header length level kind ++ rest) 0 = length := by
  rw [cmsg_len, header, List.append_assoc, List.append_assoc]
  exact fieldAt_append fits [] _

theorem cmsg_level_header (length : Nat) {level : Nat} (fits : level < 256 ^ 4) (kind : Nat)
    (rest : List UInt8) : cmsg_level (header length level kind ++ rest) 0 = level := by
  have field := fieldAt_append fits (littleEndian 8 length) (littleEndian 4 kind ++ rest)
  rw [littleEndian_length] at field
  rw [cmsg_level, header, List.append_assoc, List.append_assoc]
  exact field

theorem cmsg_type_header (length level : Nat) {kind : Nat} (fits : kind < 256 ^ 4)
    (rest : List UInt8) : cmsg_type (header length level kind ++ rest) 0 = kind := by
  have field := fieldAt_append fits (littleEndian 8 length ++ littleEndian 4 level) rest
  rw [List.length_append, littleEndian_length, littleEndian_length] at field
  rw [cmsg_type, header, List.append_assoc]
  exact field

theorem CMSG_DATA_header (length level kind : Nat) (rest : List UInt8) :
    CMSG_DATA (header length level kind ++ rest) 0 = rest :=
  List.drop_left' (header_length length level kind)

theorem CMSG_FIRSTHDR_header (length level kind : Nat) (rest : List UInt8) :
    CMSG_FIRSTHDR (header length level kind ++ rest) = some 0 := by
  rw [CMSG_FIRSTHDR, List.length_append, header_length, if_neg]
  simp only [cmsghdrSize]
  omega

theorem ofWord32_map_toWord32 {descriptors : List Int}
    (ints : ∀ descriptor ∈ descriptors, -2 ^ 31 ≤ descriptor ∧ descriptor < 2 ^ 31) :
    (descriptors.map toWord32).map ofWord32 = descriptors := by
  induction descriptors with
  | nil => rfl
  | cons descriptor rest ih =>
      have here := ints descriptor (List.mem_cons_self ..)
      rw [List.map_cons, List.map_cons, ofWord32_toWord32 here.1 here.2,
        ih fun other member => ints other (List.mem_cons_of_mem _ member)]

theorem passedFrom_end {control : List UInt8} {cmsgh : Nat}
    (behind : control.length < cmsgh + cmsghdrSize) (rounds : Nat) :
    passedFrom control rounds cmsgh = some [] := by
  cases rounds with
  | zero => rfl
  | succ rounds => exact if_pos behind

/-- A buffer of one item, which is as long as its header says. -/
theorem passed_single {length level kind : Nat} {rest : List UInt8}
    (whole : length = cmsghdrSize + rest.length) (fits : length < 256 ^ 8)
    (levelFits : level < 256 ^ 4) (kindFits : kind < 256 ^ 4) :
    passed (header length level kind ++ rest) =
      if level ≠ SOL_SOCKET then some []
      else if kind ≠ SCM_RIGHTS then none
      else some ((fieldsFrom 4 (rest.length / ControlBufferItemSize) rest).map ofWord32) := by
  have size : (header length level kind ++ rest).length = length := by
    rw [List.length_append, header_length, whole]
    rfl
  have last : ∀ rounds, passedFrom (header length level kind ++ rest) rounds
      (0 + CMSG_ALIGN length) = some [] := by
    intro rounds
    apply passedFrom_end
    rw [size]
    simp only [CMSG_ALIGN, cmsghdrSize]
    omega
  obtain ⟨rounds, positive⟩ : ∃ rounds, length = rounds + 1 :=
    ⟨length - 1, by simp only [whole, cmsghdrSize]; omega⟩
  have payload : (length - cmsghdrSize) / ControlBufferItemSize =
      rest.length / ControlBufferItemSize := by
    rw [whole, Nat.add_sub_cancel_left]
  rw [passed, size, positive, passedFrom, ← positive]
  simp only [size, cmsg_len_header fits, cmsg_level_header _ levelFits,
    cmsg_type_header _ _ kindFits, CMSG_DATA_header, last, payload, Option.map_some,
    List.append_nil]
  rw [if_neg (by omega), if_neg (by omega)]

/-- The kernel finds in a written buffer exactly the descriptors that the writer
put there. -/
theorem passed_written {descriptors : List Int} (few : descriptors.length < 2 ^ 32)
    (ints : ∀ descriptor ∈ descriptors, -2 ^ 31 ≤ descriptor ∧ descriptor < 2 ^ 31) :
    passed (written descriptors) = some descriptors := by
  unfold written
  split
  · rename_i none_
    rw [List.length_eq_zero_iff] at none_
    subst descriptors
    rfl
  · have size : (writeFields 4 (descriptors.map toWord32)).length =
        ControlBufferItemSize * descriptors.length := by
      rw [writeFields_length, List.length_map]
      rfl
    have fits : CMSG_LEN (ControlBufferItemSize * descriptors.length) < 256 ^ 8 := by
      simp only [CMSG_LEN, CMSG_ALIGN, cmsghdrSize, ControlBufferItemSize]
      omega
    have whole : CMSG_LEN (ControlBufferItemSize * descriptors.length) =
        cmsghdrSize + (writeFields 4 (descriptors.map toWord32)).length := by
      rw [size]
      rfl
    have count : (writeFields 4 (descriptors.map toWord32)).length / ControlBufferItemSize =
        (descriptors.map toWord32).length := by
      rw [size, List.length_map]
      exact Nat.mul_div_cancel_left _ (by decide)
    have words : ∀ word ∈ descriptors.map toWord32, word < 256 ^ 4 := by
      intro word member
      obtain ⟨descriptor, _, same⟩ := List.mem_map.mp member
      subst word
      exact toWord32_lt descriptor
    have fields := fieldsFrom_writeFields words []
    rw [List.append_nil] at fields
    rw [rightsItem, passed_single whole fits (by decide) (by decide), if_neg (by decide),
      if_neg (by decide), count, fields, ofWord32_map_toWord32 ints]

/-- The kernel takes a buffer of one foreign item for one without descriptors. -/
theorem passed_foreign {rest : List UInt8} (short : rest.length < 2 ^ 32) :
    passed (header (cmsghdrSize + rest.length) 0 0 ++ rest) = some [] := by
  have fits : cmsghdrSize + rest.length < 256 ^ 8 := by
    simp only [cmsghdrSize]
    omega
  rw [passed_single rfl fits (by decide) (by decide), if_pos (by decide)]

/-! ### The control header loop -/

private def payloadOf (descriptors : List Descriptor) : List UInt8 :=
  writeFields 4 ((descriptors.map fun descriptor => (descriptor.val : Int)).map toWord32) ++
    List.replicate (CMSG_SPACE (ControlBufferItemSize * descriptors.length) -
      CMSG_LEN (ControlBufferItemSize * descriptors.length)) 0

private theorem received_eq {descriptors : List Descriptor} (some_ : descriptors ≠ []) :
    received descriptors =
      header (CMSG_LEN (ControlBufferItemSize * descriptors.length)) SOL_SOCKET SCM_RIGHTS ++
        payloadOf descriptors := by
  have positive : descriptors.length ≠ 0 := by
    rw [Ne, List.length_eq_zero_iff]
    exact some_
  rw [received, if_neg positive]
  simp only [rightsItem, List.length_map, List.append_assoc, payloadOf]

private theorem CMSG_LEN_fits {count : Nat} (few : count < 2 ^ 32) :
    CMSG_LEN (ControlBufferItemSize * count) < 256 ^ 8 := by
  simp only [CMSG_LEN, CMSG_ALIGN, cmsghdrSize, ControlBufferItemSize]
  omega

private theorem received_header {descriptors : List Descriptor} (some_ : descriptors ≠ [])
    (few : descriptors.length < 2 ^ 32) :
    CMSG_FIRSTHDR (received descriptors) = some 0 ∧
      cmsg_level (received descriptors) 0 = SOL_SOCKET ∧
      cmsg_type (received descriptors) 0 = SCM_RIGHTS ∧
      cmsg_len (received descriptors) 0 = CMSG_LEN (ControlBufferItemSize * descriptors.length) ∧
      CMSG_DATA (received descriptors) 0 = payloadOf descriptors := by
  rw [received_eq some_]
  exact ⟨CMSG_FIRSTHDR_header .., cmsg_level_header _ (by decide) ..,
    cmsg_type_header _ _ (by decide) _, cmsg_len_header (CMSG_LEN_fits few) .., CMSG_DATA_header ..⟩

theorem received_length {descriptors : List Descriptor} (some_ : descriptors ≠ []) :
    (received descriptors).length = CMSG_SPACE (ControlBufferItemSize * descriptors.length) := by
  rw [received_eq some_, List.length_append, header_length, payloadOf, List.length_append,
    writeFields_length, List.length_replicate, List.length_map, List.length_map]
  simp only [CMSG_LEN, CMSG_SPACE, CMSG_ALIGN, cmsghdrSize, ControlBufferItemSize]
  omega

private theorem received_positive {descriptors : List Descriptor} (some_ : descriptors ≠ []) :
    ∃ rounds, (received descriptors).length = rounds + 1 + 1 := by
  refine ⟨(received descriptors).length - 2, ?_⟩
  rw [received_length some_]
  simp only [CMSG_SPACE, CMSG_ALIGN, cmsghdrSize]
  omega

theorem attach_received_nil (nullHeader : NullHeader) (message : Message) :
    attach nullHeader (received []) message = some message := rfl

def attachmentOf (descriptor : Descriptor) : Attachment :=
  { handle := descriptor.val
    lower := by omega
    upper := by omega }

private theorem payloadOf_word (descriptor : Descriptor) :
    ofWord32 (fromLittleEndian ((payloadOf [descriptor]).take ControlBufferItemSize)) =
      (descriptor.val : Int) := by
  have bound := descriptor.isLt
  have word : (payloadOf [descriptor]).take ControlBufferItemSize =
      littleEndian 4 (toWord32 (descriptor.val : Int)) := by
    rw [payloadOf, List.map_cons, List.map_nil, List.map_cons, List.map_nil, writeFields,
      List.flatMap_cons, List.flatMap_nil, List.append_nil]
    exact List.take_left' (littleEndian_length 4 _)
  rw [word, fromLittleEndian_littleEndian (toWord32_lt _)]
  exact ofWord32_toWord32 (by omega) (by omega)

private theorem received_one_last (nullHeader : NullHeader) (descriptor : Descriptor) :
    CMSG_NXTHDR nullHeader (received [descriptor]) (some 0) = some none := by
  obtain ⟨_, _, _, length, _⟩ :=
    received_header (List.cons_ne_nil descriptor []) (show 1 < 2 ^ 32 by decide)
  have size := received_length (List.cons_ne_nil descriptor [])
  simp only [CMSG_NXTHDR, length, size, List.length_cons, List.length_nil]
  rw [if_neg (by decide), if_pos (by decide)]

/-- Where the loop can start, one descriptor passes every assertion and becomes the only
attachment. -/
theorem attach_received_one {message : Message} (fresh : message.attachments = [])
    (descriptor : Descriptor) :
    ∃ extended, attach .yieldsFirst (received [descriptor]) message = some extended ∧
      extended.contents = message.contents ∧ extended.size = message.size ∧
      extended.attachments = [attachmentOf descriptor] := by
  have nonempty := List.cons_ne_nil descriptor []
  obtain ⟨first, level, kind, length, data⟩ :=
    received_header nonempty (show 1 < 2 ^ 32 by decide)
  obtain ⟨rounds, positive⟩ := received_positive nonempty
  have distinct : ¬ (descriptor.val : Int) = -1 := by omega
  have room : message.attachments.length ≤ Message.MaxControlBufferItemCount := by
    rw [fresh]
    decide
  refine ⟨{ message with attachments := message.attachments ++ [attachmentOf descriptor] },
    ?_, rfl, rfl, by rw [fresh]; rfl⟩
  rw [attach, positive, if_neg (Nat.succ_ne_zero _), collect, CMSG_NXTHDR, first]
  simp only [level, kind, length, data, payloadOf_word, distinct, Message.addAttachment, room,
    if_true, if_false, ne_eq, not_true_eq_false, List.length_cons, List.length_nil,
    collect, received_one_last, Nat.zero_add, Nat.mul_one, attachmentOf]

/-- Elsewhere no reader gets past a control buffer. -/
theorem attach_dereferenced {control : List UInt8} (present : control ≠ [])
    (message : Message) : attach .dereferenced control message = none := by
  obtain ⟨rounds, positive⟩ : ∃ rounds, control.length = rounds + 1 :=
    Nat.exists_eq_succ_of_ne_zero fun empty => present (List.length_eq_zero_iff.mp empty)
  rw [attach, positive, if_neg (Nat.succ_ne_zero _)]
  rfl

/-- Two or more descriptors end the reader: it expects one item for each descriptor, if its
loop can start at all. -/
theorem attach_received_many (nullHeader : NullHeader) (message : Message)
    {descriptors : List Descriptor}
    (several : 2 ≤ descriptors.length) (few : descriptors.length < 2 ^ 32) :
    attach nullHeader (received descriptors) message = none := by
  have nonempty : descriptors ≠ [] := by
    intro empty
    rw [empty] at several
    contradiction
  obtain ⟨first, level, kind, length, _⟩ := received_header nonempty few
  obtain ⟨rounds, positive⟩ := received_positive nonempty
  have mismatch : CMSG_LEN (ControlBufferItemSize * descriptors.length) ≠
      CMSG_LEN ControlBufferItemSize := by
    simp only [CMSG_LEN, CMSG_ALIGN, cmsghdrSize, ControlBufferItemSize]
    omega
  cases nullHeader with
  | dereferenced =>
      apply attach_dereferenced
      intro empty
      rw [empty] at positive
      contradiction
  | yieldsFirst =>
      rw [attach, positive, if_neg (Nat.succ_ne_zero _), collect, CMSG_NXTHDR, first]
      simp only [level, kind, length, mismatch, ne_eq, not_true_eq_false, not_false_eq_true,
        if_true, if_false]

end Control

end CoreLib
