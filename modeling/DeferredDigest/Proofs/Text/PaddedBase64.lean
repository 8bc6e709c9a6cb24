import Mathlib
import DeferredDigest.Digest

/-!
# Padded base64 by its bit-stream definition

RFC 4648 §4 defines base64 on bits.  The bytes of the input, each most significant bit first,
form one bit stream; zero bits extend it to a whole number of six-bit groups; each group is
written as the symbol of its value in the alphabet of Table 1; and `=` closes a last quantum of
one or two bytes.  `Base64.rfc4648` states that definition with no three-byte groups in it, and
the encoder, which works three bytes at a time with shifts and masks, computes it
(`Base64.encodeChars_eq_rfc4648`).  From the definition:

* the text of `n` bytes has `4 * ⌈n / 3⌉` characters, its `i`-th character is the symbol of the
  `i`-th six-bit group, and `(3 - n % 3) % 3` pads end it (`Base64.length_rfc4648`,
  `Base64.getElem?_rfc4648`, `Base64.drop_rfc4648`);
* only the pads are `=`, so a text fixes the length of its input, and the encoder is injective
  (`Base64.encode_injective`).

Main statement: `Hasher.sha512Base64_encodes_hash`.  A stored digest is the base64 text of the
64-byte SHA-512 hash of the payload, 86 alphabet symbols followed by `==`, and equal digests come
from equal hashes.
-/

namespace DeferredDigest

namespace Base64

/-! ### Bits -/

/-- The low `n` bits of `x`, most significant first. -/
def bits : Nat → Nat → List Bool
  | 0, _ => []
  | n + 1, x => x.testBit n :: bits n x

/-- The number a list of bits spells, most significant first. -/
def bitsValue : List Bool → Nat
  | [] => 0
  | b :: l => b.toNat * 2 ^ l.length + bitsValue l

@[simp] theorem length_bits (n x : Nat) : (bits n x).length = n := by
  induction n with
  | zero => rfl
  | succ n ih => simp [bits, ih]

/-- The low `m + n` bits are the `m` bits above the low `n`, then the low `n`. -/
theorem bits_add (m n x : Nat) : bits (m + n) x = bits m (x / 2 ^ n) ++ bits n x := by
  induction m with
  | zero => simp [bits]
  | succ m ih => rw [Nat.succ_add, bits, ih, bits, Nat.testBit_div_two_pow, List.cons_append]

theorem bitsValue_append (l₁ l₂ : List Bool) :
    bitsValue (l₁ ++ l₂) = bitsValue l₁ * 2 ^ l₂.length + bitsValue l₂ := by
  induction l₁ with
  | nil => simp [bitsValue]
  | cons b l₁ ih =>
    rw [List.cons_append, bitsValue, bitsValue, ih, List.length_append, Nat.pow_add]
    grind

theorem bitsValue_bits (n x : Nat) : bitsValue (bits n x) = x % 2 ^ n := by
  induction n with
  | zero => simp [bits, bitsValue, Nat.mod_one]
  | succ n ih =>
    rw [bits, bitsValue, ih, length_bits, Nat.mod_pow_succ, ← Nat.toNat_testBit]
    grind

@[simp] theorem bitsValue_replicate_false (k : Nat) : bitsValue (List.replicate k false) = 0 := by
  induction k with
  | zero => rfl
  | succ k ih => simp [List.replicate_succ, bitsValue, ih]

theorem bitsValue_lt (l : List Bool) : bitsValue l < 2 ^ l.length := by
  induction l with
  | nil => simp [bitsValue]
  | cons b l ih =>
    rw [bitsValue, List.length_cons, Nat.pow_succ]
    cases b <;> simp <;> omega

theorem bitsValue_bits_append (m n x y : Nat) :
    bitsValue (bits m x ++ bits n y) = x % 2 ^ m * 2 ^ n + y % 2 ^ n := by
  rw [bitsValue_append, bitsValue_bits, bitsValue_bits, length_bits]

theorem bitsValue_bits_append_zeros (m n x : Nat) :
    bitsValue (bits m x ++ List.replicate n false) = x % 2 ^ m * 2 ^ n := by
  rw [bitsValue_append, bitsValue_bits, bitsValue_replicate_false, List.length_replicate,
    Nat.add_zero]

/-! ### The definition -/

/-- The alphabet of RFC 4648 §4, Table 1: the symbol of the value `v` is its `v`-th entry. -/
def alphabet : List Char :=
  ['A', 'B', 'C', 'D', 'E', 'F', 'G', 'H', 'I', 'J', 'K', 'L', 'M', 'N', 'O', 'P', 'Q', 'R', 'S',
   'T', 'U', 'V', 'W', 'X', 'Y', 'Z', 'a', 'b', 'c', 'd', 'e', 'f', 'g', 'h', 'i', 'j', 'k', 'l',
   'm', 'n', 'o', 'p', 'q', 'r', 's', 't', 'u', 'v', 'w', 'x', 'y', 'z', '0', '1', '2', '3', '4',
   '5', '6', '7', '8', '9', '+', '/']

/-- The symbol of a six-bit value (`group_lt`: no group reaches 64). -/
def symbol (v : Nat) : Char := alphabet.getD v 'A'

/-- The bit stream of a byte list: each byte's eight bits, most significant first. -/
def bitStream (bs : List UInt8) : List Bool := bs.flatMap fun b => bits 8 b.toNat

/-- The bit stream with zero bits added up to a whole number of six-bit groups. -/
def extended (bs : List UInt8) : List Bool :=
  bitStream bs ++ List.replicate ((6 - (bitStream bs).length % 6) % 6) false

/-- The `i`-th run of six bits of a bit list. -/
def sextet (l : List Bool) (i : Nat) : List Bool := (l.drop (6 * i)).take 6

/-- The value of the `i`-th six-bit group of the extended bit stream. -/
def group (bs : List UInt8) (i : Nat) : Nat := bitsValue (sextet (extended bs) i)

/-- The number of six-bit groups. -/
def groupCount (bs : List UInt8) : Nat := (extended bs).length / 6

/-- The number of `=` after the groups of `n` bytes: none after whole quanta of three bytes, two
after a last single byte, one after a last pair. -/
def padCount (n : Nat) : Nat := (3 - n % 3) % 3

/-- Base64 of a byte list, as RFC 4648 §4 defines it: the symbols of the six-bit groups, then
the padding. -/
def rfc4648 (bs : List UInt8) : List Char :=
  (List.range (groupCount bs)).map (fun i => symbol (group bs i)) ++
    List.replicate (padCount bs.length) '='

@[simp] theorem bitStream_cons (b : UInt8) (bs : List UInt8) :
    bitStream (b :: bs) = bits 8 b.toNat ++ bitStream bs := rfl

@[simp] theorem length_bitStream (bs : List UInt8) : (bitStream bs).length = 8 * bs.length := by
  induction bs with
  | nil => rfl
  | cons b bs ih => simp [ih]; omega

theorem groupCount_eq (bs : List UInt8) : groupCount bs = (8 * bs.length + 5) / 6 := by
  simp [groupCount, extended]
  omega

theorem padCount_add_three (n : Nat) : padCount (n + 3) = padCount n := by
  simp only [padCount, Nat.add_mod_right]

@[simp] theorem sextet_append_zero {l r : List Bool} (h : l.length = 6) : sextet (l ++ r) 0 = l := by
  simp [sextet, h]

@[simp] theorem sextet_zero_of_length {l : List Bool} (h : l.length = 6) : sextet l 0 = l := by
  simp [sextet, ← h]

@[simp] theorem sextet_append_succ {l r : List Bool} (h : l.length = 6) (i : Nat) :
    sextet (l ++ r) (i + 1) = sextet r i := by
  rw [sextet, sextet, show 6 * (i + 1) = l.length + 6 * i by omega, List.drop_append,
    List.drop_eq_nil_of_le (by omega), List.nil_append, Nat.add_sub_cancel_left]

/-! ### The extended stream, quantum by quantum -/

/-- The 24 bits of three bytes are four whole sextets, so the rest of the input keeps its own
extension. -/
theorem extended_cons3 (a b c : UInt8) (rest : List UInt8) :
    extended (a :: b :: c :: rest) =
      bits 6 (a.toNat / 4) ++ ((bits 2 a.toNat ++ bits 4 (b.toNat / 16)) ++
        ((bits 4 b.toNat ++ bits 2 (c.toNat / 64)) ++ (bits 6 c.toNat ++ extended rest))) := by
  have ha : bits 8 a.toNat = bits 6 (a.toNat / 4) ++ bits 2 a.toNat := bits_add 6 2 _
  have hb : bits 8 b.toNat = bits 4 (b.toNat / 16) ++ bits 4 b.toNat := bits_add 4 4 _
  have hc : bits 8 c.toNat = bits 2 (c.toNat / 64) ++ bits 6 c.toNat := bits_add 2 6 _
  have hpad : (6 - (bitStream (a :: b :: c :: rest)).length % 6) % 6 =
      (6 - (bitStream rest).length % 6) % 6 := by
    simp only [length_bitStream, List.length_cons]
    omega
  rw [extended, extended, hpad]
  simp only [bitStream_cons, ha, hb, hc, List.append_assoc]

theorem extended_single (a : UInt8) :
    extended [a] = bits 6 (a.toNat / 4) ++ (bits 2 a.toNat ++ List.replicate 4 false) := by
  simp [extended, bitStream, bits_add 6 2]

theorem extended_pair (a b : UInt8) :
    extended [a, b] = bits 6 (a.toNat / 4) ++ ((bits 2 a.toNat ++ bits 4 (b.toNat / 16)) ++
      (bits 4 b.toNat ++ List.replicate 2 false)) := by
  have ha : bits 8 a.toNat = bits 6 (a.toNat / 4) ++ bits 2 a.toNat := bits_add 6 2 _
  have hb : bits 8 b.toNat = bits 4 (b.toNat / 16) ++ bits 4 b.toNat := bits_add 4 4 _
  simp [extended, bitStream, ha, hb]

/-- Three bytes are written as four symbols, followed by the text of the rest. -/
theorem rfc4648_cons3 (a b c : UInt8) (rest : List UInt8) :
    rfc4648 (a :: b :: c :: rest) =
      [symbol (a.toNat / 4), symbol (a.toNat % 4 * 16 + b.toNat / 16),
        symbol (b.toNat % 16 * 4 + c.toNat / 64), symbol (c.toNat % 64)] ++ rfc4648 rest := by
  have ha : a.toNat < 256 := a.toNat_lt
  have hb : b.toNat < 256 := b.toNat_lt
  have hc : c.toNat < 256 := c.toNat_lt
  have hg : ∀ i, group (a :: b :: c :: rest) (4 + i) = group rest i := by
    intro i
    rw [Nat.add_comm]
    simp only [group, extended_cons3, sextet_append_succ, List.length_append, length_bits]
  have h0 : group (a :: b :: c :: rest) 0 = a.toNat / 4 := by
    simp only [group, extended_cons3, sextet_append_zero, length_bits, bitsValue_bits]
    omega
  have h1 : group (a :: b :: c :: rest) 1 = a.toNat % 4 * 16 + b.toNat / 16 := by
    simp only [group, extended_cons3, sextet_append_succ, sextet_append_zero, List.length_append,
      length_bits, bitsValue_bits_append]
    omega
  have h2 : group (a :: b :: c :: rest) 2 = b.toNat % 16 * 4 + c.toNat / 64 := by
    simp only [group, extended_cons3, sextet_append_succ, sextet_append_zero, List.length_append,
      length_bits, bitsValue_bits_append]
    omega
  have h3 : group (a :: b :: c :: rest) 3 = c.toNat % 64 := by
    simp only [group, extended_cons3, sextet_append_succ, sextet_append_zero, List.length_append,
      length_bits, bitsValue_bits]
    omega
  have hG : groupCount (a :: b :: c :: rest) = 4 + groupCount rest := by
    simp only [groupCount_eq, List.length_cons]
    omega
  rw [rfc4648, hG, List.range_add, List.map_append, List.map_map,
    show List.range 4 = [0, 1, 2, 3] from rfl, List.length_cons, List.length_cons,
    List.length_cons, padCount_add_three, rfc4648]
  simp only [List.map_cons, List.map_nil, Function.comp_def, h0, h1, h2, h3, hg, List.cons_append,
    List.nil_append]

/-- A last single byte is two symbols and two pads. -/
theorem rfc4648_single (a : UInt8) :
    rfc4648 [a] = [symbol (a.toNat / 4), symbol (a.toNat % 4 * 16), '=', '='] := by
  have ha : a.toNat < 256 := a.toNat_lt
  have h0 : group [a] 0 = a.toNat / 4 := by
    simp only [group, extended_single, sextet_append_zero, length_bits, bitsValue_bits]
    omega
  have h1 : group [a] 1 = a.toNat % 4 * 16 := by
    simp only [group, extended_single, sextet_append_succ, sextet_zero_of_length,
      List.length_append, length_bits, List.length_replicate, bitsValue_bits_append_zeros]
    omega
  have hG : groupCount [a] = 2 := by simp [groupCount_eq]
  rw [rfc4648, hG, show List.range 2 = [0, 1] from rfl]
  simp [h0, h1, padCount]

/-- A last pair of bytes is three symbols and one pad. -/
theorem rfc4648_pair (a b : UInt8) :
    rfc4648 [a, b] =
      [symbol (a.toNat / 4), symbol (a.toNat % 4 * 16 + b.toNat / 16), symbol (b.toNat % 16 * 4),
        '='] := by
  have ha : a.toNat < 256 := a.toNat_lt
  have hb : b.toNat < 256 := b.toNat_lt
  have h0 : group [a, b] 0 = a.toNat / 4 := by
    simp only [group, extended_pair, sextet_append_zero, length_bits, bitsValue_bits]
    omega
  have h1 : group [a, b] 1 = a.toNat % 4 * 16 + b.toNat / 16 := by
    simp only [group, extended_pair, sextet_append_succ, sextet_append_zero, List.length_append,
      length_bits, bitsValue_bits_append]
    omega
  have h2 : group [a, b] 2 = b.toNat % 16 * 4 := by
    simp only [group, extended_pair, sextet_append_succ, sextet_zero_of_length,
      List.length_append, length_bits, List.length_replicate, bitsValue_bits_append_zeros]
    omega
  have hG : groupCount [a, b] = 3 := by simp [groupCount_eq]
  rw [rfc4648, hG, show List.range 3 = [0, 1, 2] from rfl]
  simp [h0, h1, h2, padCount]

/-! ### The encoder -/

theorem toNat_and_mask {x m : UInt8} {n : Nat} (hm : m.toNat + 1 = 2 ^ n) :
    (x &&& m).toNat = x.toNat % 2 ^ n := by
  rw [UInt8.toNat_and, show m.toNat = 2 ^ n - 1 by omega, Nat.and_two_pow_sub_one_eq_mod]

theorem toNat_shiftRight_of_lt {x k : UInt8} (hk : k.toNat < 8) :
    (x >>> k).toNat = x.toNat / 2 ^ k.toNat := by
  rw [UInt8.toNat_shiftRight, Nat.mod_eq_of_lt hk, Nat.shiftRight_eq_div_pow]

/-- The low `j` bits of `x`, moved up `k` places, stay within the byte. -/
theorem toNat_masked_shiftLeft {x m k : UInt8} {j : Nat} (hm : m.toNat + 1 = 2 ^ j)
    (hk : k.toNat < 8) (hjk : j + k.toNat ≤ 8) :
    ((x &&& m) <<< k).toNat = x.toNat % 2 ^ j * 2 ^ k.toNat := by
  have hlow : x.toNat % 2 ^ j < 2 ^ j := Nat.mod_lt _ (Nat.two_pow_pos j)
  have hfit : x.toNat % 2 ^ j * 2 ^ k.toNat < 2 ^ 8 :=
    calc x.toNat % 2 ^ j * 2 ^ k.toNat
        < 2 ^ j * 2 ^ k.toNat := Nat.mul_lt_mul_of_pos_right hlow (Nat.two_pow_pos _)
      _ = 2 ^ (j + k.toNat) := (Nat.pow_add 2 j k.toNat).symm
      _ ≤ 2 ^ 8 := Nat.pow_le_pow_right (by decide) hjk
  rw [UInt8.toNat_shiftLeft, toNat_and_mask hm, Nat.mod_eq_of_lt hk, Nat.shiftLeft_eq,
    Nat.mod_eq_of_lt hfit]

/-- A six-bit value that straddles two bytes: the low bits of `x` above the high `k` bits of
`y`.  The two parts have no bit in common, so the `|||` adds them. -/
theorem toNat_straddle {x y m k r : UInt8} {j : Nat} (hm : m.toNat + 1 = 2 ^ j)
    (hk : k.toNat < 8) (hjk : j + k.toNat ≤ 8) (hr : r.toNat < 8) (hkr : k.toNat + r.toNat = 8) :
    (((x &&& m) <<< k) ||| (y >>> r)).toNat =
      x.toNat % 2 ^ j * 2 ^ k.toNat + y.toNat / 2 ^ r.toNat := by
  have hy : y.toNat / 2 ^ r.toNat < 2 ^ k.toNat := by
    rw [Nat.div_lt_iff_lt_mul (Nat.two_pow_pos _), ← Nat.pow_add, hkr]
    exact y.toNat_lt
  rw [UInt8.toNat_or, toNat_masked_shiftLeft hm hk hjk, toNat_shiftRight_of_lt hr,
    Nat.mul_comm, Nat.two_pow_add_eq_or_of_lt hy]

theorem digit_table : ∀ n, n < 64 → digit n.toUInt8 = symbol n := by decide

/-- The encoder's digit is the alphabet symbol of the low six bits. -/
theorem digit_eq_symbol (v : UInt8) : digit v = symbol (v.toNat % 64) := by
  have hlt : v.toNat % 64 < 64 := Nat.mod_lt _ (by decide)
  have hv : (v &&& 63).toNat = v.toNat % 64 := toNat_and_mask (n := 6) rfl
  have hw : ((v.toNat % 64).toUInt8 &&& 63).toNat = v.toNat % 64 := by
    rw [toNat_and_mask (n := 6) rfl, UInt8.toNat_ofNat']
    omega
  rw [← digit_table _ hlt]
  simp only [digit, hv, hw]

theorem encodeChars_cons3 (a b c : UInt8) (rest : List UInt8) :
    encodeChars (a :: b :: c :: rest) =
      [symbol (a.toNat / 4), symbol (a.toNat % 4 * 16 + b.toNat / 16),
        symbol (b.toNat % 16 * 4 + c.toNat / 64), symbol (c.toNat % 64)] ++ encodeChars rest := by
  have ha : a.toNat < 256 := a.toNat_lt
  have hb : b.toNat < 256 := b.toNat_lt
  have hc : c.toNat < 256 := c.toNat_lt
  have h0 : (a >>> 2).toNat = a.toNat / 4 := toNat_shiftRight_of_lt (by decide)
  have h1 : (((a &&& 3) <<< 4) ||| (b >>> 4)).toNat = a.toNat % 4 * 16 + b.toNat / 16 :=
    toNat_straddle (j := 2) rfl (by decide) (by decide) (by decide) (by decide)
  have h2 : (((b &&& 15) <<< 2) ||| (c >>> 6)).toNat = b.toNat % 16 * 4 + c.toNat / 64 :=
    toNat_straddle (j := 4) rfl (by decide) (by decide) (by decide) (by decide)
  simp only [encodeChars, digit_eq_symbol, h0, h1, h2, List.cons_append, List.nil_append]
  -- every value is already below 64, so the digit's own reduction changes nothing
  simp (disch := omega) only [Nat.mod_eq_of_lt]

theorem encodeChars_single (a : UInt8) :
    encodeChars [a] = [symbol (a.toNat / 4), symbol (a.toNat % 4 * 16), '=', '='] := by
  have ha : a.toNat < 256 := a.toNat_lt
  have h0 : (a >>> 2).toNat = a.toNat / 4 := toNat_shiftRight_of_lt (by decide)
  have h1 : ((a &&& 3) <<< 4).toNat = a.toNat % 4 * 16 :=
    toNat_masked_shiftLeft (j := 2) rfl (by decide) (by decide)
  simp only [encodeChars, digit_eq_symbol, h0, h1, padChar]
  simp (disch := omega) only [Nat.mod_eq_of_lt]

theorem encodeChars_pair (a b : UInt8) :
    encodeChars [a, b] =
      [symbol (a.toNat / 4), symbol (a.toNat % 4 * 16 + b.toNat / 16), symbol (b.toNat % 16 * 4),
        '='] := by
  have ha : a.toNat < 256 := a.toNat_lt
  have hb : b.toNat < 256 := b.toNat_lt
  have h0 : (a >>> 2).toNat = a.toNat / 4 := toNat_shiftRight_of_lt (by decide)
  have h1 : (((a &&& 3) <<< 4) ||| (b >>> 4)).toNat = a.toNat % 4 * 16 + b.toNat / 16 :=
    toNat_straddle (j := 2) rfl (by decide) (by decide) (by decide) (by decide)
  have h2 : ((b &&& 15) <<< 2).toNat = b.toNat % 16 * 4 :=
    toNat_masked_shiftLeft (j := 4) rfl (by decide) (by decide)
  simp only [encodeChars, digit_eq_symbol, h0, h1, h2, padChar]
  simp (disch := omega) only [Nat.mod_eq_of_lt]

/-- The encoder computes the bit-stream definition. -/
theorem encodeChars_eq_rfc4648 (bs : List UInt8) : encodeChars bs = rfc4648 bs := by
  induction bs using encodeChars.induct with
  | case1 => decide
  | case2 a => rw [encodeChars_single, rfc4648_single]
  | case3 a b => rw [encodeChars_pair, rfc4648_pair]
  | case4 a b c rest ih => rw [encodeChars_cons3, rfc4648_cons3, ih]

-- the test vectors of RFC 4648 §10 for `f`, `fo` and `foob`
example : encodeChars [102] = ['Z', 'g', '=', '='] ∧ encodeChars [102, 111] = ['Z', 'm', '8', '='] ∧
    encodeChars [102, 111, 111, 98] = ['Z', 'm', '9', 'v', 'Y', 'g', '=', '='] := by
  decide

theorem toList_encode (bs : List UInt8) : (encode bs).toList = rfc4648 bs := by
  rw [encode, String.toList_ofList, encodeChars_eq_rfc4648]

/-! ### The text, symbol by symbol -/

theorem length_alphabet : alphabet.length = 64 := rfl

theorem idxOf_symbol : ∀ v, v < 64 → alphabet.idxOf (symbol v) = v := by decide

theorem symbol_inj {v w : Nat} (hv : v < 64) (hw : w < 64) (h : symbol v = symbol w) : v = w := by
  rw [← idxOf_symbol v hv, ← idxOf_symbol w hw, h]

theorem getElem?_alphabet {v : Nat} (hv : v < 64) : alphabet[v]? = some (symbol v) := by
  simp [symbol, List.getD_eq_getElem?_getD, List.getElem?_eq_getElem (length_alphabet ▸ hv)]

theorem symbol_mem {v : Nat} (hv : v < 64) : symbol v ∈ alphabet :=
  List.mem_of_getElem? (getElem?_alphabet hv)

theorem pad_not_mem_alphabet : '=' ∉ alphabet := by decide

theorem symbol_ne_pad {v : Nat} (hv : v < 64) : symbol v ≠ '=' :=
  fun h => pad_not_mem_alphabet (h ▸ symbol_mem hv)

theorem group_lt (bs : List UInt8) (i : Nat) : group bs i < 64 :=
  calc group bs i
      < 2 ^ (sextet (extended bs) i).length := bitsValue_lt _
    _ ≤ 2 ^ 6 := Nat.pow_le_pow_right (by decide) (List.length_take_le _ _)

/-- Four characters for each started quantum of three bytes. -/
theorem length_rfc4648 (bs : List UInt8) : (rfc4648 bs).length = 4 * ((bs.length + 2) / 3) := by
  simp only [rfc4648, List.length_append, List.length_map, List.length_range, List.length_replicate,
    groupCount_eq, padCount]
  omega

theorem getElem?_rfc4648 {bs : List UInt8} {i : Nat} (h : i < groupCount bs) :
    (rfc4648 bs)[i]? = alphabet[group bs i]? := by
  rw [rfc4648, List.getElem?_append_left (by simpa using h), List.getElem?_map,
    List.getElem?_range h, getElem?_alphabet (group_lt bs i), Option.map_some]

theorem drop_rfc4648 (bs : List UInt8) :
    (rfc4648 bs).drop (groupCount bs) = List.replicate (padCount bs.length) '=' := by
  rw [rfc4648, List.drop_left' (by simp)]

/-- Only the padding is `=`. -/
theorem count_pad_rfc4648 (bs : List UInt8) : (rfc4648 bs).count '=' = padCount bs.length := by
  simp only [rfc4648, List.count_append, List.count_replicate_self, Nat.add_eq_right,
    List.count_eq_zero, List.mem_map, List.mem_range]
  rintro ⟨i, -, hi⟩
  exact symbol_ne_pad (group_lt bs i) hi

/-! ### Injectivity -/

/-- Texts of inputs of one length are equal only for equal inputs: each group of symbols gives
its bytes back. -/
theorem eq_of_encodeChars_eq_of_length {xs ys : List UInt8} (hl : xs.length = ys.length)
    (h : encodeChars xs = encodeChars ys) : xs = ys := by
  induction xs using encodeChars.induct generalizing ys with
  | case1 => exact (List.length_eq_zero_iff.mp hl.symm).symm
  | case2 a =>
    obtain ⟨a', rfl⟩ := List.length_eq_one_iff.mp hl.symm
    rw [encodeChars_single, encodeChars_single] at h
    simp only [List.cons.injEq, and_true] at h
    have ha : a.toNat < 256 := a.toNat_lt
    have ha' : a'.toNat < 256 := a'.toNat_lt
    have e0 := symbol_inj (by omega) (by omega) h.1
    have e1 := symbol_inj (by omega) (by omega) h.2
    rw [UInt8.toNat_inj.mp (by omega : a.toNat = a'.toNat)]
  | case3 a b =>
    match ys, hl with
    | [a', b'], _ =>
      rw [encodeChars_pair, encodeChars_pair] at h
      simp only [List.cons.injEq, and_true] at h
      have ha : a.toNat < 256 := a.toNat_lt
      have ha' : a'.toNat < 256 := a'.toNat_lt
      have hb : b.toNat < 256 := b.toNat_lt
      have hb' : b'.toNat < 256 := b'.toNat_lt
      have e0 := symbol_inj (by omega) (by omega) h.1
      have e1 := symbol_inj (by omega) (by omega) h.2.1
      have e2 := symbol_inj (by omega) (by omega) h.2.2
      rw [UInt8.toNat_inj.mp (by omega : a.toNat = a'.toNat),
        UInt8.toNat_inj.mp (by omega : b.toNat = b'.toNat)]
  | case4 a b c rest ih =>
    match ys, hl with
    | a' :: b' :: c' :: rest', hl =>
      rw [encodeChars_cons3, encodeChars_cons3] at h
      obtain ⟨hq, hrest⟩ := List.append_inj h rfl
      simp only [List.cons.injEq, and_true] at hq
      have ha : a.toNat < 256 := a.toNat_lt
      have ha' : a'.toNat < 256 := a'.toNat_lt
      have hb : b.toNat < 256 := b.toNat_lt
      have hb' : b'.toNat < 256 := b'.toNat_lt
      have hc : c.toNat < 256 := c.toNat_lt
      have hc' : c'.toNat < 256 := c'.toNat_lt
      have e0 := symbol_inj (by omega) (by omega) hq.1
      have e1 := symbol_inj (by omega) (by omega) hq.2.1
      have e2 := symbol_inj (by omega) (by omega) hq.2.2.1
      have e3 := symbol_inj (by omega) (by omega) hq.2.2.2
      rw [UInt8.toNat_inj.mp (by omega : a.toNat = a'.toNat),
        UInt8.toNat_inj.mp (by omega : b.toNat = b'.toNat),
        UInt8.toNat_inj.mp (by omega : c.toNat = c'.toNat),
        ih (by simpa using hl) hrest]

/-- Base64 texts are equal only for equal inputs: the length of a text and its number of pads
fix the length of the input. -/
theorem encodeChars_injective : Function.Injective encodeChars := by
  intro xs ys h
  have hlen := congrArg List.length h
  have hpad := congrArg (List.count '=') h
  rw [encodeChars_eq_rfc4648, encodeChars_eq_rfc4648, length_rfc4648, length_rfc4648] at hlen
  rw [encodeChars_eq_rfc4648, encodeChars_eq_rfc4648, count_pad_rfc4648, count_pad_rfc4648,
    padCount, padCount] at hpad
  exact eq_of_encodeChars_eq_of_length (by omega) h

theorem encode_injective : Function.Injective encode := by
  intro xs ys h
  have hl := congrArg String.toList h
  rw [encode, encode, String.toList_ofList, String.toList_ofList] at hl
  exact encodeChars_injective hl

end Base64

namespace Sha512

/-- Eight chaining words of eight bytes each. -/
theorem length_hash (msg : List UInt8) : (hash msg).length = 64 := by
  simp [hash, Words.toList, bytesOfWord]

end Sha512

namespace Hasher

theorem apply_sha512Base64 (x : List UInt8) :
    sha512Base64.apply x = Base64.encode (Sha512.hash x) := rfl

/-- The stored digest of a payload is the base64 text, by the bit-stream definition, of its
64-byte SHA-512 hash; the encoder writes every input by the rules of that definition; so a digest
is 86 alphabet symbols and `==`, and equal digests come from equal hashes. -/
theorem sha512Base64_encodes_hash :
    (∀ x : List UInt8, (Sha512.hash x).length = 64 ∧
      (sha512Base64.apply x).toList = Base64.rfc4648 (Sha512.hash x)) ∧
    (∀ b : List UInt8, (Base64.encode b).length = 4 * ((b.length + 2) / 3) ∧
      (∀ i, i < Base64.groupCount b →
        (Base64.encode b).toList[i]? = Base64.alphabet[Base64.group b i]?) ∧
      (Base64.encode b).toList.drop (Base64.groupCount b) =
        List.replicate ((3 - b.length % 3) % 3) '=') ∧
    (∀ x : List UInt8, (sha512Base64.apply x).length = 88 ∧
      ∃ cs, (sha512Base64.apply x).toList = cs ++ ['=', '='] ∧ cs.length = 86 ∧
        ∀ c ∈ cs, c ∈ Base64.alphabet) ∧
    (∀ x y : List UInt8, sha512Base64.apply x = sha512Base64.apply y →
      Sha512.hash x = Sha512.hash y) := by
  refine ⟨fun x => ⟨Sha512.length_hash x, ?_⟩, fun b => ⟨?_, fun i hi => ?_, ?_⟩, fun x => ?_,
    fun x y h => Base64.encode_injective h⟩
  · rw [apply_sha512Base64, Base64.toList_encode]
  · rw [← String.length_toList, Base64.toList_encode, Base64.length_rfc4648]
  · rw [Base64.toList_encode, Base64.getElem?_rfc4648 hi]
  · rw [Base64.toList_encode, Base64.drop_rfc4648, Base64.padCount]
  · -- a 64-byte hash has 86 groups and a last single byte, so two pads
    have hG : Base64.groupCount (Sha512.hash x) = 86 := by
      rw [Base64.groupCount_eq, Sha512.length_hash]
    refine ⟨?_, (List.range 86).map fun i => Base64.symbol (Base64.group (Sha512.hash x) i),
      ?_, by simp, ?_⟩
    · rw [← String.length_toList, apply_sha512Base64, Base64.toList_encode,
        Base64.length_rfc4648, Sha512.length_hash]
    · rw [apply_sha512Base64, Base64.toList_encode, Base64.rfc4648, hG, Sha512.length_hash]
      rfl
    · simp only [List.mem_map, List.mem_range]
      rintro c ⟨i, -, rfl⟩
      exact Base64.symbol_mem (Base64.group_lt _ i)

/-- The theorem at concrete inputs: the first symbol of the text of `Man`, the two pads after a
single byte, the length of a digest, and two one-byte messages whose hashes, and so whose digests,
differ. -/
theorem sha512Base64_encodes_hash_samples :
    (0 < Base64.groupCount [77, 97, 110] ∧ (Base64.encode [77, 97, 110]).toList[0]? = some 'T') ∧
    (Base64.encode [102]).toList.drop (Base64.groupCount [102]) = ['=', '='] ∧
    (sha512Base64.apply [0]).length = 88 ∧
    Sha512.hash [0] ≠ Sha512.hash [1] ∧ sha512Base64.apply [0] ≠ sha512Base64.apply [1] := by
  have hspec := sha512Base64_encodes_hash
  have hgroups : 0 < Base64.groupCount [77, 97, 110] := by decide
  have hT : Base64.alphabet[Base64.group [77, 97, 110] 0]? = some 'T' := by decide
  -- the kernel computes both hashes
  have hhash : Sha512.hash [0] ≠ Sha512.hash [1] := by decide +kernel
  refine ⟨⟨hgroups, ((hspec.2.1 _).2.1 0 hgroups).trans hT⟩, ?_, (hspec.2.2.1 [0]).1, hhash,
    fun h => hhash (hspec.2.2.2 [0] [1] h)⟩
  rw [(hspec.2.1 [102]).2.2]
  rfl

end Hasher

end DeferredDigest
