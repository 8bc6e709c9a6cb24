/-!
# SHA-512

The SHA-512 hash of FIPS 180-4 over byte lists.  A message is padded to a whole number of
128-byte blocks (§5.1.2), each block is expanded to an 80-word schedule (§6.4.2), and the
compression function folds the blocks into eight 64-bit chaining words, starting from the
initial value of §5.3.5.  The digest is the chaining words written big-endian.

Everything here is total: blocks are cut by a count computed from the padded length, and the
rounds are a fold over the schedule.
-/

namespace DeferredDigest.Sha512

/-- The eighty round constants of §4.2.3: the first 64 bits of the fractional parts of the
cube roots of the first eighty primes. -/
def roundConstants : List UInt64 := [
  0x428a2f98d728ae22, 0x7137449123ef65cd, 0xb5c0fbcfec4d3b2f, 0xe9b5dba58189dbbc,
  0x3956c25bf348b538, 0x59f111f1b605d019, 0x923f82a4af194f9b, 0xab1c5ed5da6d8118,
  0xd807aa98a3030242, 0x12835b0145706fbe, 0x243185be4ee4b28c, 0x550c7dc3d5ffb4e2,
  0x72be5d74f27b896f, 0x80deb1fe3b1696b1, 0x9bdc06a725c71235, 0xc19bf174cf692694,
  0xe49b69c19ef14ad2, 0xefbe4786384f25e3, 0x0fc19dc68b8cd5b5, 0x240ca1cc77ac9c65,
  0x2de92c6f592b0275, 0x4a7484aa6ea6e483, 0x5cb0a9dcbd41fbd4, 0x76f988da831153b5,
  0x983e5152ee66dfab, 0xa831c66d2db43210, 0xb00327c898fb213f, 0xbf597fc7beef0ee4,
  0xc6e00bf33da88fc2, 0xd5a79147930aa725, 0x06ca6351e003826f, 0x142929670a0e6e70,
  0x27b70a8546d22ffc, 0x2e1b21385c26c926, 0x4d2c6dfc5ac42aed, 0x53380d139d95b3df,
  0x650a73548baf63de, 0x766a0abb3c77b2a8, 0x81c2c92e47edaee6, 0x92722c851482353b,
  0xa2bfe8a14cf10364, 0xa81a664bbc423001, 0xc24b8b70d0f89791, 0xc76c51a30654be30,
  0xd192e819d6ef5218, 0xd69906245565a910, 0xf40e35855771202a, 0x106aa07032bbd1b8,
  0x19a4c116b8d2d0c8, 0x1e376c085141ab53, 0x2748774cdf8eeb99, 0x34b0bcb5e19b48a8,
  0x391c0cb3c5c95a63, 0x4ed8aa4ae3418acb, 0x5b9cca4f7763e373, 0x682e6ff3d6b2b8a3,
  0x748f82ee5defb2fc, 0x78a5636f43172f60, 0x84c87814a1f0ab72, 0x8cc702081a6439ec,
  0x90befffa23631e28, 0xa4506cebde82bde9, 0xbef9a3f7b2c67915, 0xc67178f2e372532b,
  0xca273eceea26619c, 0xd186b8c721c0c207, 0xeada7dd6cde0eb1e, 0xf57d4f7fee6ed178,
  0x06f067aa72176fba, 0x0a637dc5a2c898a6, 0x113f9804bef90dae, 0x1b710b35131c471b,
  0x28db77f523047d84, 0x32caab7b40c72493, 0x3c9ebe0a15c9bebc, 0x431d67c49c100d4c,
  0x4cc5d4becb3e42b6, 0x597f299cfc657e2a, 0x5fcb6fab3ad6faec, 0x6c44198c4a475817]

/-- The eight working words of the compression function, `a` through `h`. -/
structure Words where
  a : UInt64
  b : UInt64
  c : UInt64
  d : UInt64
  e : UInt64
  f : UInt64
  g : UInt64
  h : UInt64

namespace Words

/-- The initial hash value of §5.3.5: the first 64 bits of the fractional parts of the square
roots of the first eight primes. -/
def initial : Words :=
  ⟨0x6a09e667f3bcc908, 0xbb67ae8584caa73b, 0x3c6ef372fe94f82b, 0xa54ff53a5f1d36f1,
   0x510e527fade682d1, 0x9b05688c2b3e6c1f, 0x1f83d9abfb41bd6b, 0x5be0cd19137e2179⟩

/-- Word-wise sum, the last step of each block's compression. -/
def add (x y : Words) : Words :=
  ⟨x.a + y.a, x.b + y.b, x.c + y.c, x.d + y.d, x.e + y.e, x.f + y.f, x.g + y.g, x.h + y.h⟩

/-- The words in order `a` to `h`. -/
def toList (x : Words) : List UInt64 := [x.a, x.b, x.c, x.d, x.e, x.f, x.g, x.h]

end Words

/-- Rotation to the right by `n` places, for `0 < n < 64`. -/
def rotr (x : UInt64) (n : UInt64) : UInt64 := (x >>> n) ||| (x <<< (64 - n))

/-- The choice function `Ch` of §4.1.3. -/
def choose (x y z : UInt64) : UInt64 := (x &&& y) ^^^ (~~~x &&& z)

/-- The majority function `Maj` of §4.1.3. -/
def majority (x y z : UInt64) : UInt64 := (x &&& y) ^^^ (x &&& z) ^^^ (y &&& z)

/-- `Σ₀` of §4.1.3. -/
def bigSigma0 (x : UInt64) : UInt64 := rotr x 28 ^^^ rotr x 34 ^^^ rotr x 39

/-- `Σ₁` of §4.1.3. -/
def bigSigma1 (x : UInt64) : UInt64 := rotr x 14 ^^^ rotr x 18 ^^^ rotr x 41

/-- `σ₀` of §4.1.3. -/
def smallSigma0 (x : UInt64) : UInt64 := rotr x 1 ^^^ rotr x 8 ^^^ (x >>> 7)

/-- `σ₁` of §4.1.3. -/
def smallSigma1 (x : UInt64) : UInt64 := rotr x 19 ^^^ rotr x 61 ^^^ (x >>> 6)

/-- One round of §6.4.2 step 3, with round constant `k` and schedule word `w`. -/
def round (s : Words) (k w : UInt64) : Words :=
  let t1 := s.h + bigSigma1 s.e + choose s.e s.f s.g + k + w
  let t2 := bigSigma0 s.a + majority s.a s.b s.c
  ⟨t1 + t2, s.a, s.b, s.c, s.d + t1, s.e, s.f, s.g⟩

/-- The big-endian word of eight bytes (missing bytes count as zero). -/
def wordOfBytes (bs : List UInt8) : UInt64 :=
  bs.foldl (fun acc b => (acc <<< 8) ||| b.toUInt64) 0

/-- A word as eight bytes, most significant first. -/
def bytesOfWord (w : UInt64) : List UInt8 :=
  ([56, 48, 40, 32, 24, 16, 8, 0] : List UInt64).map fun s => (w >>> s).toUInt8

/-- The first sixteen schedule words: the block read as big-endian words. -/
def blockWords : Nat → List UInt8 → List UInt64
  | 0, _ => []
  | n + 1, bs => wordOfBytes (bs.take 8) :: blockWords n (bs.drop 8)

/-- The message schedule of §6.4.2 step 1: the sixteen block words, extended to eighty by
`W t = σ₁ (W (t-2)) + W (t-7) + σ₀ (W (t-15)) + W (t-16)`. -/
def schedule (block : List UInt8) : Array UInt64 :=
  (List.range 64).foldl
    (fun w t =>
      w.push (smallSigma1 (w.getD (t + 14) 0) + w.getD (t + 9) 0 +
        smallSigma0 (w.getD (t + 1) 0) + w.getD t 0))
    (blockWords 16 block).toArray

/-- The compression of one 128-byte block into the chaining words. -/
def compress (h : Words) (block : List UInt8) : Words :=
  let w := (schedule block).toList
  h.add ((roundConstants.zip w).foldl (fun s kw => round s kw.1 kw.2) h)

/-- The number of zero bytes between the `0x80` marker and the length field, so that a
message of `n` bytes pads to a multiple of 128 bytes (§5.1.2). -/
def zeroCount (n : Nat) : Nat := (128 - (n + 17) % 128) % 128

/-- The padded message of §5.1.2: the message, a `0x80` byte, zeros, and the bit length as a
128-bit big-endian number. -/
def pad (msg : List UInt8) : List UInt8 :=
  let bits := msg.length * 8
  msg ++ [0x80] ++ List.replicate (zeroCount msg.length) 0 ++
    (List.range 16).reverse.map fun i => (bits.shiftRight (8 * i) % 256).toUInt8

/-- Cuts a byte list into `n` blocks of 128 bytes. -/
def blocks : Nat → List UInt8 → List (List UInt8)
  | 0, _ => []
  | n + 1, bs => bs.take 128 :: blocks n (bs.drop 128)

/-- The SHA-512 digest of a message, as 64 bytes. -/
def hash (msg : List UInt8) : List UInt8 :=
  let padded := pad msg
  let final := (blocks (padded.length / 128) padded).foldl compress Words.initial
  final.toList.flatMap bytesOfWord

end DeferredDigest.Sha512
