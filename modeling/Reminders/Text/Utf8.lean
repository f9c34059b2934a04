/-!
UTF-8.

`Utf8.bytes` gives the octets of a text. `Utf8.lossy` reads any octets: where they are not those of a
character, the longest beginning of one is replaced by U+FFFD.
-/

namespace Reminders.Utf8

/-- The octets of a text. -/
def bytes (s : String) : List UInt8 := s.toList.flatMap String.utf8EncodeChar

/-- What a leading octet promises: how many octets follow, the bounds of the first of them, and the
leading octet's part of the character. -/
def lead? (b : UInt8) : Option (Nat × Nat × Nat × Nat) :=
  let n := b.toNat
  if 0xC2 ≤ n ∧ n ≤ 0xDF then some (1, 0x80, 0xBF, n - 0xC0)
  else if n = 0xE0 then some (2, 0xA0, 0xBF, 0)
  else if n = 0xED then some (2, 0x80, 0x9F, 0xD)
  else if 0xE1 ≤ n ∧ n ≤ 0xEF then some (2, 0x80, 0xBF, n - 0xE0)
  else if n = 0xF0 then some (3, 0x90, 0xBF, 0)
  else if 0xF1 ≤ n ∧ n ≤ 0xF3 then some (3, 0x80, 0xBF, n - 0xF0)
  else if n = 0xF4 then some (3, 0x80, 0x8F, 4)
  else none

/-- Takes up to `n` octets that continue a character, the first of them between bounds: the value
with their parts, how many are lacking, and the rest. -/
def continuation (n low high value : Nat) : List UInt8 → Nat × Nat × List UInt8
  | [] => (value, n, [])
  | b :: rest =>
    match n with
    | 0 => (value, 0, b :: rest)
    | n + 1 =>
      if low ≤ b.toNat ∧ b.toNat ≤ high then
        continuation n 0x80 0xBF (value * 64 + b.toNat % 64) rest
      else (value, n + 1, b :: rest)

theorem length_continuation_le (n low high value : Nat) (bs : List UInt8) :
    (continuation n low high value bs).2.2.length ≤ bs.length := by
  induction bs generalizing n low high value with
  | nil => simp [continuation]
  | cons b rest ih =>
    unfold continuation
    split
    · simp
    · split
      · exact Nat.le_succ_of_le (ih ..)
      · simp

/-- The character that stands for octets which are none. -/
def replacement : Char := '\uFFFD'

/-- Reads octets. -/
def lossyChars : List UInt8 → List Char
  | [] => []
  | b :: rest =>
    if b.toNat < 0x80 then Char.ofNat b.toNat :: lossyChars rest
    else match lead? b with
      | none => replacement :: lossyChars rest
      | some (n, low, high, value) =>
        let taken := continuation n low high value rest
        (if taken.2.1 = 0 then Char.ofNat taken.1 else replacement) :: lossyChars taken.2.2
termination_by bs => bs.length
decreasing_by
  · exact Nat.lt_succ_self _
  · exact Nat.lt_succ_self _
  · exact Nat.lt_succ_of_le (length_continuation_le ..)

/-- The text of some octets. -/
def lossy (bs : List UInt8) : String := String.ofList (lossyChars bs)

/-- The text of some octets, if they are those of a text. -/
def decode? (bs : List UInt8) : Option String :=
  let s := lossy bs
  if bytes s = bs then some s else none

end Reminders.Utf8
