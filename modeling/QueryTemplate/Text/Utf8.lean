/-!
# Text from bytes

Bytes are read as text whatever they hold: a sequence that is no character is replaced by a mark.
One mark stands for as many bytes as could begin a character, so reading goes on at the first byte
that does not fit.
-/

namespace QueryTemplate.Text

/-- The mark for bytes that are no character. -/
def replacementChar : Char := '\uFFFD'

/-- How many bytes follow a first byte, and the least and greatest second byte.  None follow a byte
that stands alone or begins no character. -/
def followers (first : Nat) : Nat × Nat × Nat :=
  if first < 0xC2 then (0, 0, 0)
  else if first < 0xE0 then (1, 0x80, 0xBF)
  else if first = 0xE0 then (2, 0xA0, 0xBF)
  else if first = 0xED then (2, 0x80, 0x9F)
  else if first < 0xF0 then (2, 0x80, 0xBF)
  else if first = 0xF0 then (3, 0x90, 0xBF)
  else if first < 0xF4 then (3, 0x80, 0xBF)
  else if first = 0xF4 then (3, 0x80, 0x8F)
  else (0, 0, 0)

/-- At most `count` bytes that continue a character.  Only the first of them is bounded by `least`
and `greatest` beyond what all are. -/
def takeFollowers : Nat → Nat → Nat → List UInt8 → List Nat
  | 0, _, _, _ => []
  | _, _, _, [] => []
  | count + 1, least, greatest, b :: bs =>
    if least ≤ b.toNat ∧ b.toNat ≤ greatest then b.toNat :: takeFollowers count 0x80 0xBF bs else []

/-- The bits that a first byte gives to a character of `count` further bytes. -/
def firstBits (first : Nat) : Nat → Nat
  | 0 => first
  | 1 => first - 0xC0
  | 2 => first - 0xE0
  | _ => first - 0xF0

/-- The character that begins with a byte, if there is one, and how many of the bytes after it
belong to it or could. -/
def readChar (b : UInt8) (bs : List UInt8) : Option Char × Nat :=
  let first := b.toNat
  let (count, least, greatest) := followers first
  let taken := takeFollowers count least greatest bs
  if taken.length = count ∧ (count ≠ 0 ∨ first < 0x80) then
    (some (Char.ofNat (taken.foldl (fun n x => 64 * n + (x - 0x80)) (firstBits first count))), count)
  else (none, taken.length)

/-- Bytes as characters. -/
def decodeReplacing : List UInt8 → List Char
  | [] => []
  | b :: bs =>
    let (c?, n) := readChar b bs
    c?.getD replacementChar :: decodeReplacing (bs.drop n)
termination_by bs => bs.length
decreasing_by simp only [List.length_drop, List.length_cons]; omega

/-! A character must be written as briefly as possible, and none is beyond U+10FFFF. -/

example : decodeReplacing [0xF0, 0x9F, 0x98, 0x80] = ['😀'] := by decide +kernel
example : decodeReplacing [0xC0, 0x80] = ['\uFFFD', '\uFFFD'] := by decide +kernel
example : decodeReplacing [0xED, 0xA0, 0x80] = ['\uFFFD', '\uFFFD', '\uFFFD'] := by decide +kernel
example : decodeReplacing [0xE2, 0x82, 0x41] = ['\uFFFD', 'A'] := by decide +kernel
example : decodeReplacing [0xF4, 0x8F, 0xBF, 0xBF] = [Char.ofNat 0x10FFFF] := by decide +kernel

/-! ## Strict reading -/

/-- Bytes that are no character. -/
structure Flaw where
  index : Nat
  /-- How many they are; nothing when the bytes end before the character does. -/
  count? : Option Nat
  deriving DecidableEq

/-- The first bytes that are no character; the bytes begin at `index`. -/
def flawFrom? (index : Nat) : List UInt8 → Option Flaw
  | [] => none
  | b :: bs =>
    match readChar b bs with
    | (some _, n) => flawFrom? (index + 1 + n) (bs.drop n)
    | (none, n) =>
      let ended := bs.length = n ∧ n < (followers b.toNat).1
      some ⟨index, if ended then none else some (n + 1)⟩
termination_by bs => bs.length
decreasing_by simp only [List.length_drop, List.length_cons]; omega

/-- The text that bytes hold, or the first flaw. -/
def ofBytes (bytes : List UInt8) : Except Flaw String :=
  match flawFrom? 0 bytes with
  | some f => .error f
  | none => .ok (String.ofList (decodeReplacing bytes))

end QueryTemplate.Text
