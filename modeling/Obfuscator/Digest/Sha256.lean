/-
The digest SHA-256 of a sequence of bytes.

The message is padded to whole blocks of 64 bytes: one bit set, zeros, and
its length in bits as eight bytes. Each block is spread into 64 words, which
are mixed one after the other into a state of eight words; the digest is the
final state.
-/
import Obfuscator.Text.Hex

namespace Obfuscator.Digest

/-- The state of the digest: eight words. -/
structure State where
  a : UInt32
  b : UInt32
  c : UInt32
  d : UInt32
  e : UInt32
  f : UInt32
  g : UInt32
  h : UInt32

/-- The state before the first block: fractions of the square roots of the
first primes. -/
def initial : State :=
  ⟨0x6a09e667, 0xbb67ae85, 0x3c6ef372, 0xa54ff53a,
    0x510e527f, 0x9b05688c, 0x1f83d9ab, 0x5be0cd19⟩

/-- One word for every round: fractions of the cube roots of the first
primes. -/
def roundWords : List UInt32 := [
    0x428a2f98, 0x71374491, 0xb5c0fbcf, 0xe9b5dba5, 0x3956c25b, 0x59f111f1,
    0x923f82a4, 0xab1c5ed5, 0xd807aa98, 0x12835b01, 0x243185be, 0x550c7dc3,
    0x72be5d74, 0x80deb1fe, 0x9bdc06a7, 0xc19bf174, 0xe49b69c1, 0xefbe4786,
    0x0fc19dc6, 0x240ca1cc, 0x2de92c6f, 0x4a7484aa, 0x5cb0a9dc, 0x76f988da,
    0x983e5152, 0xa831c66d, 0xb00327c8, 0xbf597fc7, 0xc6e00bf3, 0xd5a79147,
    0x06ca6351, 0x14292967, 0x27b70a85, 0x2e1b2138, 0x4d2c6dfc, 0x53380d13,
    0x650a7354, 0x766a0abb, 0x81c2c92e, 0x92722c85, 0xa2bfe8a1, 0xa81a664b,
    0xc24b8b70, 0xc76c51a3, 0xd192e819, 0xd6990624, 0xf40e3585, 0x106aa070,
    0x19a4c116, 0x1e376c08, 0x2748774c, 0x34b0bcb5, 0x391c0cb3, 0x4ed8aa4a,
    0x5b9cca4f, 0x682e6ff3, 0x748f82ee, 0x78a5636f, 0x84c87814, 0x8cc70208,
    0x90befffa, 0xa4506ceb, 0xbef9a3f7, 0xc67178f2]

-- ============================================================ the message

/-- A number as eight bytes, the most significant first. -/
def lengthBytes (n : Nat) : List UInt8 :=
  [56, 48, 40, 32, 24, 16, 8, 0].map fun shift =>
    UInt8.ofNat (n / Nat.pow 2 shift)

/-- A message padded to whole blocks. -/
def pad (message : List UInt8) : List UInt8 :=
  let zeros := (119 - message.length % 64) % 64
  message ++ 0x80 :: List.replicate zeros 0 ++ lengthBytes (8 * message.length)

/-- Bytes taken together in fours, the most significant first. -/
def words : List UInt8 → List UInt32
  | a :: b :: c :: d :: rest =>
    (a.toUInt32 <<< 24 ||| b.toUInt32 <<< 16 ||| c.toUInt32 <<< 8 |||
      d.toUInt32) :: words rest
  | _ => []

-- ============================================================ the rounds

/-- A word turned to the right. -/
def rotate (x : UInt32) (amount : UInt32) : UInt32 :=
  x >>> amount ||| x <<< (32 - amount)

/-- Adds `count` words to a schedule, which holds the latest word first. -/
def extend : (count : Nat) → List UInt32 → List UInt32
  | 0, w => w
  | count + 1, w =>
    let back (n : Nat) : UInt32 := w.getD (n - 1) 0
    let near := rotate (back 2) 17 ^^^ rotate (back 2) 19 ^^^ back 2 >>> 10
    let far := rotate (back 15) 7 ^^^ rotate (back 15) 18 ^^^ back 15 >>> 3
    extend count ((back 16 + far + back 7 + near) :: w)

/-- The 64 words of a block of sixteen. -/
def schedule (block : List UInt32) : List UInt32 :=
  (extend 48 block.reverse).reverse

/-- Mixes one word into the state. -/
def round (s : State) (k w : UInt32) : State :=
  let choice := (s.e &&& s.f) ^^^ (~~~s.e &&& s.g)
  let majority := (s.a &&& s.b) ^^^ (s.a &&& s.c) ^^^ (s.b &&& s.c)
  let t := s.h + (rotate s.e 6 ^^^ rotate s.e 11 ^^^ rotate s.e 25) + choice
    + k + w
  let u := (rotate s.a 2 ^^^ rotate s.a 13 ^^^ rotate s.a 22) + majority
  ⟨t + u, s.a, s.b, s.c, s.d + t, s.e, s.f, s.g⟩

/-- Mixes one block into the state. -/
def compress (s : State) (block : List UInt32) : State :=
  let t := (List.zip roundWords (schedule block)).foldl
    (fun t (k, w) => round t k w) s
  ⟨s.a + t.a, s.b + t.b, s.c + t.c, s.d + t.d,
    s.e + t.e, s.f + t.f, s.g + t.g, s.h + t.h⟩

/-- Mixes in so many blocks of sixteen words. -/
def absorb : (blocks : Nat) → State → List UInt32 → State
  | 0, s, _ => s
  | blocks + 1, s, w => absorb blocks (compress s (w.take 16)) (w.drop 16)

/-- A word as four bytes, the most significant first. -/
def wordBytes (w : UInt32) : List UInt8 :=
  [(w >>> 24).toUInt8, (w >>> 16).toUInt8, (w >>> 8).toUInt8, w.toUInt8]

/-- The digest of a message. -/
def sha256 (message : List UInt8) : List UInt8 :=
  let w := words (pad message)
  let s := absorb (w.length / 16) initial w
  [s.a, s.b, s.c, s.d, s.e, s.f, s.g, s.h].flatMap wordBytes

/-- The digest of a text in hexadecimal. -/
def sha256Hex (text : String) : String :=
  String.ofList ((sha256 text.toUTF8.toList).flatMap Text.hexByte)

end Obfuscator.Digest
