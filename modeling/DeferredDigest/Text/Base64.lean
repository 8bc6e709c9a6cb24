/-!
# Base64 with padding

The standard base64 encoding of RFC 4648 §4: every group of three bytes becomes four characters
of the alphabet `A–Z a–z 0–9 + /`, each standing for six bits, most significant first.  A last
group of one or two bytes is filled with zero bits and closed by `==` or `=` (§3.5), so the text
always has four characters for each started group of three bytes.
-/

namespace DeferredDigest.Base64

/-- The character of the alphabet for a six-bit value (§4, Table 1).  Only the low six bits of
the argument count. -/
def digit (v : UInt8) : Char :=
  let n := (v &&& 63).toNat
  if n < 26 then Char.ofNat (65 + n)
  else if n < 52 then Char.ofNat (97 + (n - 26))
  else if n < 62 then Char.ofNat (48 + (n - 52))
  else if n = 62 then '+'
  else '/'

/-- The padding character. -/
def padChar : Char := '='

/-- The characters of an encoding, three bytes at a time. -/
def encodeChars : List UInt8 → List Char
  | [] => []
  | [a] => [digit (a >>> 2), digit ((a &&& 3) <<< 4), padChar, padChar]
  | [a, b] =>
    [digit (a >>> 2), digit (((a &&& 3) <<< 4) ||| (b >>> 4)), digit ((b &&& 15) <<< 2), padChar]
  | a :: b :: c :: rest =>
    digit (a >>> 2) :: digit (((a &&& 3) <<< 4) ||| (b >>> 4)) ::
      digit (((b &&& 15) <<< 2) ||| (c >>> 6)) :: digit c :: encodeChars rest

/-- The padded base64 text of a byte list. -/
def encode (bs : List UInt8) : String := String.ofList (encodeChars bs)

end DeferredDigest.Base64
