/-
# SHA-256

The message is padded with a one bit, zeros and its length in bits to a whole
number of blocks of 64 octets.  Each block stirs the eight words of the state:
its sixteen words are stretched to a schedule of 64, and each of them drives one
round.

| Constant | Where it comes from |
|----------|---------------------|
| `initial` | the fractional parts of the square roots of the first 8 primes |
| `roundConstants` | the fractional parts of the cube roots of the first 64 primes |
-/

import ComponentHost.Bytes

namespace ComponentHost
namespace Sha256

/-- The state before the first block. -/
def initial : List UInt32 := [
  0x6a09e667, 0xbb67ae85, 0x3c6ef372, 0xa54ff53a,
  0x510e527f, 0x9b05688c, 0x1f83d9ab, 0x5be0cd19]

/-- One constant for each round. -/
def roundConstants : List UInt32 := [
  0x428a2f98, 0x71374491, 0xb5c0fbcf, 0xe9b5dba5, 0x3956c25b, 0x59f111f1,
  0x923f82a4, 0xab1c5ed5, 0xd807aa98, 0x12835b01, 0x243185be, 0x550c7dc3,
  0x72be5d74, 0x80deb1fe, 0x9bdc06a7, 0xc19bf174, 0xe49b69c1, 0xefbe4786,
  0x0fc19dc6, 0x240ca1cc, 0x2de92c6f, 0x4a7484aa, 0x5cb0a9dc, 0x76f988da,
  0x983e5152, 0xa831c66d, 0xb00327c8, 0xbf597fc7, 0xc6e00bf3, 0xd5a79147,
  0x06ca6351, 0x14292967, 0x27b70a85, 0x2e1b2138, 0x4d2c6dfc, 0x53380d13,
  0x650a7354, 0x766a0abb, 0x81c2c92e, 0x92722c85, 0xa2bfe8a1, 0xa81a664b,
  0xc24b8b70, 0xc76c51a3, 0xd192e819, 0xd6990624, 0xf40e3585, 0x106aa070,
  0x19a4c116, 0x1e376c08, 0x2748774c, 0x34b0bcb5, 0x391c0cb3, 0x4ed8aa4a,
  0x5b9cca4f, 0x682e6ff3, 0x748f82ee, 0x78a5636f, 0x84c87814, 0x8cc70208,
  0x90befffa, 0xa4506ceb, 0xbef9a3f7, 0xc67178f2]

/-- Turns a word to the right, by less than 32 places and by at least one. -/
def rotateRight (x n : UInt32) : UInt32 := x >>> n ||| x <<< (32 - n)

/-- The padding of a message of a length in octets. -/
def padding (length : Nat) : Bytes :=
  0x80 :: List.replicate ((119 - length % 64) % 64) 0 ++
    (Bytes.littleEndian 8 (8 * length)).reverse

/-- The words of octets, the most significant octet first. -/
def words : Bytes → List UInt32
  | a :: b :: c :: d :: rest =>
    (a.toUInt32 <<< 24 ||| b.toUInt32 <<< 16 ||| c.toUInt32 <<< 8 ||| d.toUInt32) :: words rest
  | _ => []

/-- The octets of a word, the most significant first. -/
def octets (w : UInt32) : Bytes :=
  [(w >>> 24).toUInt8, (w >>> 16).toUInt8, (w >>> 8).toUInt8, w.toUInt8]

/-- Stretches a schedule by a number of words.  The last sixteen are at hand, the
oldest first. -/
def stretch : Nat → List UInt32 → List UInt32
  | n + 1, [w0, w1, w2, w3, w4, w5, w6, w7, w8, w9, w10, w11, w12, w13, w14, w15] =>
    let s0 := rotateRight w1 7 ^^^ rotateRight w1 18 ^^^ w1 >>> 3
    let s1 := rotateRight w14 17 ^^^ rotateRight w14 19 ^^^ w14 >>> 10
    w0 :: stretch n
      [w1, w2, w3, w4, w5, w6, w7, w8, w9, w10, w11, w12, w13, w14, w15, w0 + s0 + w9 + s1]
  | _, ws => ws

/-- One round, driven by the sum of a schedule word and a round constant. -/
def round (state : List UInt32) (k : UInt32) : List UInt32 :=
  match state with
  | [a, b, c, d, e, f, g, h] =>
    let s1 := rotateRight e 6 ^^^ rotateRight e 11 ^^^ rotateRight e 25
    let choice := (e &&& f) ^^^ (~~~e &&& g)
    let t1 := h + s1 + choice + k
    let s0 := rotateRight a 2 ^^^ rotateRight a 13 ^^^ rotateRight a 22
    let majority := (a &&& b) ^^^ (a &&& c) ^^^ (b &&& c)
    [t1 + s0 + majority, a, b, c, d + t1, e, f, g]
  | _ => state

/-- Stirs a block of sixteen words into the state. -/
def compress (state block : List UInt32) : List UInt32 :=
  let schedule := stretch 48 block
  let stirred := (List.zipWith (· + ·) schedule roundConstants).foldl round state
  List.zipWith (· + ·) state stirred

/-- Stirs the words of a message into the state, a block at a time. -/
def absorb : Nat → List UInt32 → List UInt32 → List UInt32
  | 0, state, _ => state
  | blocks + 1, state, ws => absorb blocks (compress state (ws.take 16)) (ws.drop 16)

/-- The digest of a message: 32 octets. -/
def digest (message : Bytes) : Bytes :=
  let ws := words (message ++ padding message.length)
  (absorb (ws.length / 16) initial ws).flatMap octets

/-- The digest of a message in hexadecimal digits. -/
def hexDigest (message : Bytes) : String := Bytes.toHex (digest message)

end Sha256
end ComponentHost
