/-!
The SHA-256 hash of a byte string (FIPS 180-4): the message is padded with a one bit, zeros
and its bit length to a whole number of 64-byte blocks, and each block is folded into an
eight-word state by 64 rounds of the compression function.
-/

namespace CsgPreview.Digest

/-- Round constants: the first 32 bits of the fractional parts of the cube roots of the first
64 primes. -/
def roundConstants : Array UInt32 := #[
  0x428a2f98, 0x71374491, 0xb5c0fbcf, 0xe9b5dba5, 0x3956c25b, 0x59f111f1, 0x923f82a4, 0xab1c5ed5,
  0xd807aa98, 0x12835b01, 0x243185be, 0x550c7dc3, 0x72be5d74, 0x80deb1fe, 0x9bdc06a7, 0xc19bf174,
  0xe49b69c1, 0xefbe4786, 0x0fc19dc6, 0x240ca1cc, 0x2de92c6f, 0x4a7484aa, 0x5cb0a9dc, 0x76f988da,
  0x983e5152, 0xa831c66d, 0xb00327c8, 0xbf597fc7, 0xc6e00bf3, 0xd5a79147, 0x06ca6351, 0x14292967,
  0x27b70a85, 0x2e1b2138, 0x4d2c6dfc, 0x53380d13, 0x650a7354, 0x766a0abb, 0x81c2c92e, 0x92722c85,
  0xa2bfe8a1, 0xa81a664b, 0xc24b8b70, 0xc76c51a3, 0xd192e819, 0xd6990624, 0xf40e3585, 0x106aa070,
  0x19a4c116, 0x1e376c08, 0x2748774c, 0x34b0bcb5, 0x391c0cb3, 0x4ed8aa4a, 0x5b9cca4f, 0x682e6ff3,
  0x748f82ee, 0x78a5636f, 0x84c87814, 0x8cc70208, 0x90befffa, 0xa4506ceb, 0xbef9a3f7, 0xc67178f2]

/-- The starting state: the first 32 bits of the fractional parts of the square roots of the
first eight primes. -/
def initialState : Array UInt32 :=
  #[0x6a09e667, 0xbb67ae85, 0x3c6ef372, 0xa54ff53a, 0x510e527f, 0x9b05688c, 0x1f83d9ab, 0x5be0cd19]

def rotateRight (x : UInt32) (n : UInt32) : UInt32 := (x >>> n) ||| (x <<< (32 - n))

/-- The message padded to a multiple of 64 bytes: a `0x80` byte, zeros, and the length in bits
as a 64-bit big-endian number. -/
def pad (msg : List UInt8) : List UInt8 :=
  let bits := msg.length * 8
  let zeros := (119 - msg.length % 64) % 64
  msg ++ [0x80] ++ List.replicate zeros 0 ++
    (List.range 8).reverse.map fun i => (bits / Nat.pow 2 (8 * i) % 256).toUInt8

def wordAt (block : Array UInt8) (i : Nat) : UInt32 :=
  (List.range 4).foldl (fun acc k => (acc <<< 8) ||| (block.getD (4 * i + k) 0).toUInt32) 0

def schedule (block : Array UInt8) : Array UInt32 :=
  (List.range 48).foldl (fun w t =>
    let i := t + 16
    let a := w.getD (i - 15) 0
    let b := w.getD (i - 2) 0
    let s0 := rotateRight a 7 ^^^ rotateRight a 18 ^^^ (a >>> 3)
    let s1 := rotateRight b 17 ^^^ rotateRight b 19 ^^^ (b >>> 10)
    w.push (w.getD (i - 16) 0 + s0 + w.getD (i - 7) 0 + s1))
    ((List.range 16).toArray.map (wordAt block))

def compress (state : Array UInt32) (block : Array UInt8) : Array UInt32 :=
  let w := schedule block
  let v := (List.range 64).foldl (fun (v : Array UInt32) t =>
    let a := v.getD 0 0
    let e := v.getD 4 0
    let s1 := rotateRight e 6 ^^^ rotateRight e 11 ^^^ rotateRight e 25
    let ch := (e &&& v.getD 5 0) ^^^ (~~~e &&& v.getD 6 0)
    let t1 := v.getD 7 0 + s1 + ch + roundConstants.getD t 0 + w.getD t 0
    let s0 := rotateRight a 2 ^^^ rotateRight a 13 ^^^ rotateRight a 22
    let maj := (a &&& v.getD 1 0) ^^^ (a &&& v.getD 2 0) ^^^ (v.getD 1 0 &&& v.getD 2 0)
    let t2 := s0 + maj
    #[t1 + t2, a, v.getD 1 0, v.getD 2 0, v.getD 3 0 + t1, e, v.getD 5 0, v.getD 6 0]) state
  (List.range 8).toArray.map fun i => state.getD i 0 + v.getD i 0

def blocks (bytes : List UInt8) : List (Array UInt8) :=
  (List.range (bytes.length / 64)).map fun i => ((bytes.drop (64 * i)).take 64).toArray

def sha256 (msg : List UInt8) : List UInt8 :=
  let state := (blocks (pad msg)).foldl compress initialState
  state.toList.flatMap fun (word : UInt32) =>
    [(word >>> 24).toUInt8, (word >>> 16).toUInt8, (word >>> 8).toUInt8, word.toUInt8]

def hexByte (b : UInt8) : String :=
  let digit (n : Nat) : Char := if n < 10 then Char.ofNat (48 + n) else Char.ofNat (87 + n)
  String.ofList [digit (b.toNat / 16), digit (b.toNat % 16)]

end CsgPreview.Digest
