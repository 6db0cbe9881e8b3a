import Mathlib.Data.Nat.Notation
import Mathlib.Tactic.Common

/-!
# SHA-1, SHA-256 and HMAC

The two hash functions on byte strings (lists of numbers below 256), as their standard
describes them: pad the message to blocks of 64 bytes, extend each block to a schedule of
words, fold the rounds over the block.  Words are numbers below `2 ^ 32`.
-/

set_option autoImplicit false

namespace MediaCenter.Library

namespace Sha

def word (n : ℕ) : ℕ := n % 4294967296

def rotr (n x : ℕ) : ℕ := word (x >>> n ||| x <<< (32 - n))

def rotl (n x : ℕ) : ℕ := rotr (32 - n) x

def notWord (x : ℕ) : ℕ := 4294967295 - x

/-- The `n` bytes of a number, most significant first. -/
def bytesBE : ℕ → ℕ → List ℕ
  | 0, _ => []
  | n + 1, x => bytesBE n (x / 256) ++ [x % 256]

/-- The number a list of bytes writes, most significant first. -/
def fromBytesBE (l : List ℕ) : ℕ := l.foldl (fun acc b => acc * 256 + b) 0

/-- Cut a list into `k` pieces of length `n`. -/
def chunks (n : ℕ) : ℕ → List ℕ → List (List ℕ)
  | 0, _ => []
  | k + 1, l => l.take n :: chunks n k (l.drop n)

/-- The message, a one bit, zeros, and the length in bits: a multiple of 64 bytes. -/
def pad (message : List ℕ) : List ℕ :=
  message ++ 0x80 :: List.replicate ((119 - message.length % 64) % 64) 0 ++
    bytesBE 8 (8 * message.length)

def blocks (message : List ℕ) : List (List ℕ) :=
  let padded := pad message
  (chunks 64 (padded.length / 64) padded).map fun block =>
    (chunks 4 16 block).map fromBytesBE

/-- Extend the schedule by `n` words; the last sixteen are kept newest first. -/
def schedule (next : List ℕ → ℕ) : ℕ → List ℕ → List ℕ
  | 0, _ => []
  | n + 1, recent =>
      let w := next recent
      w :: schedule next n (w :: recent.take 15)

/-! ## SHA-256 -/

def sha256Constants : List ℕ :=
  [0x428a2f98, 0x71374491, 0xb5c0fbcf, 0xe9b5dba5, 0x3956c25b, 0x59f111f1, 0x923f82a4,
    0xab1c5ed5, 0xd807aa98, 0x12835b01, 0x243185be, 0x550c7dc3, 0x72be5d74, 0x80deb1fe,
    0x9bdc06a7, 0xc19bf174, 0xe49b69c1, 0xefbe4786, 0x0fc19dc6, 0x240ca1cc, 0x2de92c6f,
    0x4a7484aa, 0x5cb0a9dc, 0x76f988da, 0x983e5152, 0xa831c66d, 0xb00327c8, 0xbf597fc7,
    0xc6e00bf3, 0xd5a79147, 0x06ca6351, 0x14292967, 0x27b70a85, 0x2e1b2138, 0x4d2c6dfc,
    0x53380d13, 0x650a7354, 0x766a0abb, 0x81c2c92e, 0x92722c85, 0xa2bfe8a1, 0xa81a664b,
    0xc24b8b70, 0xc76c51a3, 0xd192e819, 0xd6990624, 0xf40e3585, 0x106aa070, 0x19a4c116,
    0x1e376c08, 0x2748774c, 0x34b0bcb5, 0x391c0cb3, 0x4ed8aa4a, 0x5b9cca4f, 0x682e6ff3,
    0x748f82ee, 0x78a5636f, 0x84c87814, 0x8cc70208, 0x90befffa, 0xa4506ceb, 0xbef9a3f7,
    0xc67178f2]

structure State256 where
  a : ℕ
  b : ℕ
  c : ℕ
  d : ℕ
  e : ℕ
  f : ℕ
  g : ℕ
  h : ℕ

def initial256 : State256 :=
  ⟨0x6a09e667, 0xbb67ae85, 0x3c6ef372, 0xa54ff53a, 0x510e527f, 0x9b05688c, 0x1f83d9ab,
    0x5be0cd19⟩

def round256 (s : State256) (kw : ℕ × ℕ) : State256 :=
  let s1 := rotr 6 s.e ^^^ rotr 11 s.e ^^^ rotr 25 s.e
  let ch := (s.e &&& s.f) ^^^ (notWord s.e &&& s.g)
  let t1 := s.h + s1 + ch + kw.1 + kw.2
  let s0 := rotr 2 s.a ^^^ rotr 13 s.a ^^^ rotr 22 s.a
  let maj := (s.a &&& s.b) ^^^ (s.a &&& s.c) ^^^ (s.b &&& s.c)
  ⟨word (t1 + s0 + maj), s.a, s.b, s.c, word (s.d + t1), s.e, s.f, s.g⟩

/-- The next schedule word, from the last sixteen, newest first. -/
def nextWord256 (recent : List ℕ) : ℕ :=
  let w2 := recent.getD 1 0
  let w15 := recent.getD 14 0
  let s0 := rotr 7 w15 ^^^ rotr 18 w15 ^^^ (w15 >>> 3)
  let s1 := rotr 17 w2 ^^^ rotr 19 w2 ^^^ (w2 >>> 10)
  word (recent.getD 15 0 + s0 + recent.getD 6 0 + s1)

def compress256 (s : State256) (block : List ℕ) : State256 :=
  let ws := block ++ schedule nextWord256 48 block.reverse
  let t := (sha256Constants.zip ws).foldl round256 s
  ⟨word (s.a + t.a), word (s.b + t.b), word (s.c + t.c), word (s.d + t.d),
    word (s.e + t.e), word (s.f + t.f), word (s.g + t.g), word (s.h + t.h)⟩

def sha256 (message : List ℕ) : List ℕ :=
  let s := (blocks message).foldl compress256 initial256
  [s.a, s.b, s.c, s.d, s.e, s.f, s.g, s.h].flatMap (bytesBE 4)

/-! ## SHA-1 -/

structure State1 where
  a : ℕ
  b : ℕ
  c : ℕ
  d : ℕ
  e : ℕ

def round1 (f : ℕ → ℕ → ℕ → ℕ) (k : ℕ) (s : State1) (w : ℕ) : State1 :=
  ⟨word (rotl 5 s.a + f s.b s.c s.d + s.e + k + w), s.a, rotl 30 s.b, s.c, s.d⟩

def nextWord1 (recent : List ℕ) : ℕ :=
  rotl 1 (recent.getD 2 0 ^^^ recent.getD 7 0 ^^^ recent.getD 13 0 ^^^ recent.getD 15 0)

def compress1 (s : State1) (block : List ℕ) : State1 :=
  let ws := block ++ schedule nextWord1 64 block.reverse
  let choose := fun b c d => (b &&& c) ||| (notWord b &&& d)
  let parity := fun b c d => b ^^^ c ^^^ d
  let majority := fun b c d => (b &&& c) ||| (b &&& d) ||| (c &&& d)
  let t := (ws.take 20).foldl (round1 choose 0x5a827999) s
  let t := ((ws.drop 20).take 20).foldl (round1 parity 0x6ed9eba1) t
  let t := ((ws.drop 40).take 20).foldl (round1 majority 0x8f1bbcdc) t
  let t := (ws.drop 60).foldl (round1 parity 0xca62c1d6) t
  ⟨word (s.a + t.a), word (s.b + t.b), word (s.c + t.c), word (s.d + t.d),
    word (s.e + t.e)⟩

def sha1 (message : List ℕ) : List ℕ :=
  let s := (blocks message).foldl compress1
    ⟨0x67452301, 0xefcdab89, 0x98badcfe, 0x10325476, 0xc3d2e1f0⟩
  [s.a, s.b, s.c, s.d, s.e].flatMap (bytesBE 4)

/-! ## HMAC and hexadecimal digests -/

/-- HMAC with a hash function of 64-byte blocks. -/
def hmac (hash : List ℕ → List ℕ) (key message : List ℕ) : List ℕ :=
  let short := if 64 < key.length then hash key else key
  let block := short ++ List.replicate (64 - short.length) 0
  hash (block.map (· ^^^ 0x5c) ++ hash (block.map (· ^^^ 0x36) ++ message))

def hexDigit (n : ℕ) : Char := "0123456789abcdef".toList.getD n '0'

def hexdigest (digest : List ℕ) : String :=
  String.ofList (digest.flatMap fun b => [hexDigit (b / 16), hexDigit (b % 16)])

end Sha

end MediaCenter.Library
