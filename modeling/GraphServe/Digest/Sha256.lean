import GraphServe.Json.Printer
import GraphServe.Text.Utf8

/-!
# SHA-256

The digest of some bytes: they are padded to whole blocks of sixty-four, and each block is mixed
into a state of eight words.

* `Sha256.digest` gives the words of the state after the last block, `Sha256.hex` their text.
-/

namespace GraphServe.Sha256

/-- The constants of the sixty-four rounds. -/
def roundConstants : List UInt32 :=
  [0x428a2f98, 0x71374491, 0xb5c0fbcf, 0xe9b5dba5, 0x3956c25b, 0x59f111f1, 0x923f82a4, 0xab1c5ed5,
   0xd807aa98, 0x12835b01, 0x243185be, 0x550c7dc3, 0x72be5d74, 0x80deb1fe, 0x9bdc06a7, 0xc19bf174,
   0xe49b69c1, 0xefbe4786, 0x0fc19dc6, 0x240ca1cc, 0x2de92c6f, 0x4a7484aa, 0x5cb0a9dc, 0x76f988da,
   0x983e5152, 0xa831c66d, 0xb00327c8, 0xbf597fc7, 0xc6e00bf3, 0xd5a79147, 0x06ca6351, 0x14292967,
   0x27b70a85, 0x2e1b2138, 0x4d2c6dfc, 0x53380d13, 0x650a7354, 0x766a0abb, 0x81c2c92e, 0x92722c85,
   0xa2bfe8a1, 0xa81a664b, 0xc24b8b70, 0xc76c51a3, 0xd192e819, 0xd6990624, 0xf40e3585, 0x106aa070,
   0x19a4c116, 0x1e376c08, 0x2748774c, 0x34b0bcb5, 0x391c0cb3, 0x4ed8aa4a, 0x5b9cca4f, 0x682e6ff3,
   0x748f82ee, 0x78a5636f, 0x84c87814, 0x8cc70208, 0x90befffa, 0xa4506ceb, 0xbef9a3f7, 0xc67178f2]

/-- Eight words. -/
structure State where
  a : UInt32
  b : UInt32
  c : UInt32
  d : UInt32
  e : UInt32
  f : UInt32
  g : UInt32
  h : UInt32
deriving DecidableEq, Repr

/-- The state before the first block. -/
def start : State :=
  ⟨0x6a09e667, 0xbb67ae85, 0x3c6ef372, 0xa54ff53a, 0x510e527f, 0x9b05688c, 0x1f83d9ab, 0x5be0cd19⟩

/-- A word turned right. -/
def rotate (x : UInt32) (n : UInt32) : UInt32 := (x >>> n) ||| (x <<< (32 - n))

/-- One round, with its constant and its word of the schedule. -/
def round (s : State) (constant word : UInt32) : State :=
  let mix := rotate s.e 6 ^^^ rotate s.e 11 ^^^ rotate s.e 25
  let choice := (s.e &&& s.f) ^^^ ((~~~s.e) &&& s.g)
  let first := s.h + mix + choice + constant + word
  let spread := rotate s.a 2 ^^^ rotate s.a 13 ^^^ rotate s.a 22
  let majority := (s.a &&& s.b) ^^^ (s.a &&& s.c) ^^^ (s.b &&& s.c)
  ⟨first + (spread + majority), s.a, s.b, s.c, s.d + first, s.e, s.f, s.g⟩

/-- The word that follows sixteen words of the schedule, the last of them first. -/
def nextWord (last : List UInt32) : UInt32 :=
  let at' (n : Nat) : UInt32 := last.getD (n - 1) 0
  let low := at' 15
  let high := at' 2
  at' 16 + (rotate low 7 ^^^ rotate low 18 ^^^ (low >>> 3)) + at' 7
    + (rotate high 17 ^^^ rotate high 19 ^^^ (high >>> 10))

/-- The schedule, from the words so far, the last of them first. -/
def extend : Nat → List UInt32 → List UInt32
  | 0,     words => words
  | n + 1, words => extend n (nextWord words :: words)

/-- The schedule of a block of sixteen words. -/
def schedule (block : List UInt32) : List UInt32 := (extend 48 block.reverse).reverse

/-- Mix a block into a state. -/
def mixBlock (s : State) (block : List UInt32) : State :=
  let t := (roundConstants.zip (schedule block)).foldl (fun t (k, w) => round t k w) s
  ⟨s.a + t.a, s.b + t.b, s.c + t.c, s.d + t.d, s.e + t.e, s.f + t.f, s.g + t.g, s.h + t.h⟩

/-- The bytes of a number, the highest first. -/
def bigEndian : Nat → Nat → List UInt8
  | 0,     _ => []
  | n + 1, x => UInt8.ofNat (x / Nat.pow 256 n) :: bigEndian n x

/-- Some bytes, padded to whole blocks: a bit, zeros and the number of bits. -/
def pad (bytes : List UInt8) : List UInt8 :=
  let zeros := (119 - bytes.length % 64) % 64
  bytes ++ [0x80] ++ List.replicate zeros 0 ++ bigEndian 8 (bytes.length * 8)

/-- The words of some bytes. -/
def words : List UInt8 → List UInt32
  | a :: b :: c :: d :: rest =>
      ((a.toUInt32 <<< 24) ||| (b.toUInt32 <<< 16) ||| (c.toUInt32 <<< 8) ||| d.toUInt32)
        :: words rest
  | _ => []

/-- The state after the blocks in some words, sixteen words a block. -/
def mixAll : Nat → State → List UInt32 → State
  | 0,     s, _  => s
  | n + 1, s, ws => mixAll n (mixBlock s (ws.take 16)) (ws.drop 16)

/-- The digest of some bytes. -/
def digest (bytes : List UInt8) : State :=
  let padded := pad bytes
  mixAll (padded.length / 64) start (words padded)

/-- The eight hexadecimal digits of a word. -/
def hexWord (x : UInt32) : List Char :=
  ([28, 24, 20, 16, 12, 8, 4, 0] : List UInt32).map fun shift =>
    Json.hexDigit ((x >>> shift) &&& 15).toNat

/-- The digest of a text in hexadecimal digits. -/
def hex (text : String) : String :=
  let s := digest (Text.bytes text)
  String.ofList ([s.a, s.b, s.c, s.d, s.e, s.f, s.g, s.h].flatMap hexWord)

end GraphServe.Sha256
