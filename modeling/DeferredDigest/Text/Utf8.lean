/-!
# Lossy UTF-8 decoding

Reads bytes as UTF-8 text, replacing what is not UTF-8 by U+FFFD.  Well-formed sequences follow
Table 3-7 of the Unicode Standard: the lead byte fixes the length and the range of the second
byte, and later bytes are continuation bytes `80..BF`.  Each maximal prefix of a well-formed
sequence that cannot be completed becomes one U+FFFD, and so does each byte that cannot start a
sequence; decoding goes on at the first byte not consumed (Unicode §3.9, "U+FFFD Substitution of
Maximal Subparts").
-/

namespace DeferredDigest.Utf8

/-- The replacement character U+FFFD. -/
def replacement : Char := '�'

/-- Whether a byte is a continuation byte `80..BF`. -/
def isContinuation (b : UInt8) : Bool := 0x80 ≤ b && b ≤ 0xBF

/-- For a lead byte of a multi-byte sequence: the allowed range of the second byte and the length
of the sequence (Table 3-7). -/
def leadShape (b : UInt8) : Option (UInt8 × UInt8 × Nat) :=
  if 0xC2 ≤ b && b ≤ 0xDF then some (0x80, 0xBF, 2)
  else if b = 0xE0 then some (0xA0, 0xBF, 3)
  else if 0xE1 ≤ b && b ≤ 0xEC then some (0x80, 0xBF, 3)
  else if b = 0xED then some (0x80, 0x9F, 3)
  else if 0xEE ≤ b && b ≤ 0xEF then some (0x80, 0xBF, 3)
  else if b = 0xF0 then some (0x90, 0xBF, 4)
  else if 0xF1 ≤ b && b ≤ 0xF3 then some (0x80, 0xBF, 4)
  else if b = 0xF4 then some (0x80, 0x8F, 4)
  else none

/-- The payload bits of a continuation byte. -/
def low6 (b : UInt8) : Nat := (b &&& 0x3F).toNat

/-- Decodes the character that starts with byte `b`, followed by `bs`: the character, or U+FFFD
for an ill-formed part, and how many bytes of `bs` it takes. -/
def step (b : UInt8) (bs : List UInt8) : Char × Nat :=
  if b < 0x80 then (Char.ofNat b.toNat, 0)
  else
    match leadShape b with
    | none => (replacement, 0)
    | some (lo, hi, n) =>
      match bs[0]? with
      | none => (replacement, 0)
      | some c1 =>
        if !(lo ≤ c1 && c1 ≤ hi) then (replacement, 0)
        else if n = 2 then (Char.ofNat ((b &&& 0x1F).toNat * 64 + low6 c1), 1)
        else
          match bs[1]? with
          | none => (replacement, 1)
          | some c2 =>
            if !isContinuation c2 then (replacement, 1)
            else if n = 3 then
              (Char.ofNat ((b &&& 0x0F).toNat * 4096 + low6 c1 * 64 + low6 c2), 2)
            else
              match bs[2]? with
              | none => (replacement, 2)
              | some c3 =>
                if !isContinuation c3 then (replacement, 2)
                else
                  (Char.ofNat ((b &&& 0x07).toNat * 262144 + low6 c1 * 4096 + low6 c2 * 64 +
                    low6 c3), 3)

/-- The characters of a byte list, with U+FFFD for each maximal ill-formed part. -/
def decodeChars : List UInt8 → List Char
  | [] => []
  | b :: bs => (step b bs).1 :: decodeChars (bs.drop (step b bs).2)
termination_by l => l.length
decreasing_by simp only [List.length_drop, List.length_cons]; omega

/-- The text of a byte list, with U+FFFD for each maximal ill-formed part. -/
def decodeLossy (bs : List UInt8) : String := String.ofList (decodeChars bs)

end DeferredDigest.Utf8
