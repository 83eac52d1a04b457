import Diffusion.Bytes.Hexadecimal

/-!
The SHA-256 digest of bytes.
-/

namespace Diffusion.Bytes

namespace Sha256

/-- A block's sixteen words, or the eight of a chaining state. -/
abbrev Words (n : Nat) := Vector UInt32 n

def rotateRight (x n : UInt32) : UInt32 := x >>> n ||| x <<< (32 - n)

/-- Fractional parts of the cube roots of the first primes. -/
def roundConstants : Words 64 := #v[
  0x428a2f98, 0x71374491, 0xb5c0fbcf, 0xe9b5dba5, 0x3956c25b, 0x59f111f1, 0x923f82a4, 0xab1c5ed5,
  0xd807aa98, 0x12835b01, 0x243185be, 0x550c7dc3, 0x72be5d74, 0x80deb1fe, 0x9bdc06a7, 0xc19bf174,
  0xe49b69c1, 0xefbe4786, 0x0fc19dc6, 0x240ca1cc, 0x2de92c6f, 0x4a7484aa, 0x5cb0a9dc, 0x76f988da,
  0x983e5152, 0xa831c66d, 0xb00327c8, 0xbf597fc7, 0xc6e00bf3, 0xd5a79147, 0x06ca6351, 0x14292967,
  0x27b70a85, 0x2e1b2138, 0x4d2c6dfc, 0x53380d13, 0x650a7354, 0x766a0abb, 0x81c2c92e, 0x92722c85,
  0xa2bfe8a1, 0xa81a664b, 0xc24b8b70, 0xc76c51a3, 0xd192e819, 0xd6990624, 0xf40e3585, 0x106aa070,
  0x19a4c116, 0x1e376c08, 0x2748774c, 0x34b0bcb5, 0x391c0cb3, 0x4ed8aa4a, 0x5b9cca4f, 0x682e6ff3,
  0x748f82ee, 0x78a5636f, 0x84c87814, 0x8cc70208, 0x90befffa, 0xa4506ceb, 0xbef9a3f7, 0xc67178f2]

/-- Fractional parts of the square roots of the first primes. -/
def initialState : Words 8 := #v[
  0x6a09e667, 0xbb67ae85, 0x3c6ef372, 0xa54ff53a, 0x510e527f, 0x9b05688c, 0x1f83d9ab, 0x5be0cd19]

/-- The message, a one bit, zeros, and the length in bits as eight bytes. -/
def pad (message : ByteArray) : ByteArray :=
  let zeros := (119 - message.size % 64) % 64
  let length := 8 * message.size
  let lengthBytes := (List.range 8).map fun i => (length / Nat.pow 256 (7 - i) % 256).toUInt8
  message ++ ⟨(0x80 :: List.replicate zeros 0 ++ lengthBytes).toArray⟩

def wordAt (bytes : ByteArray) (start : Nat) : UInt32 :=
  let byte (i : Nat) : UInt32 :=
    if h : start + i < bytes.size then bytes[start + i].toUInt32 else 0
  byte 0 <<< 24 ||| byte 1 <<< 16 ||| byte 2 <<< 8 ||| byte 3

/-- The sixteen words of a block and the forty-eight that follow from them. -/
def schedule (bytes : ByteArray) (start : Nat) : Array UInt32 :=
  let given := (Array.range 16).map fun i => wordAt bytes (start + 4 * i)
  (List.range 48).foldl (fun words _ =>
    let back (n : Nat) : UInt32 := words.getD (words.size - n) 0
    let x := back 15
    let y := back 2
    let s₀ := rotateRight x 7 ^^^ rotateRight x 18 ^^^ x >>> 3
    let s₁ := rotateRight y 17 ^^^ rotateRight y 19 ^^^ y >>> 10
    words.push (back 16 + s₀ + back 7 + s₁)) given

def round (s : Words 8) (constant word : UInt32) : Words 8 :=
  let e := s[4]
  let a := s[0]
  let s₁ := rotateRight e 6 ^^^ rotateRight e 11 ^^^ rotateRight e 25
  let choice := (e &&& s[5]) ^^^ (~~~e &&& s[6])
  let t₁ := s[7] + s₁ + choice + constant + word
  let s₀ := rotateRight a 2 ^^^ rotateRight a 13 ^^^ rotateRight a 22
  let majority := (a &&& s[1]) ^^^ (a &&& s[2]) ^^^ (s[1] &&& s[2])
  #v[t₁ + (s₀ + majority), a, s[1], s[2], s[3] + t₁, e, s[5], s[6]]

/-- Folds one block into the chaining state. -/
def compress (bytes : ByteArray) (state : Words 8) (start : Nat) : Words 8 :=
  let words := schedule bytes start
  let mixed := (List.range 64).foldl
    (fun s i => round s (roundConstants.toArray.getD i 0) (words.getD i 0)) state
  mixed.zipWith (· + ·) state

end Sha256

def sha256 (message : ByteArray) : ByteArray :=
  let padded := Sha256.pad message
  let state := (List.range (padded.size / 64)).foldl
    (fun state i => Sha256.compress padded state (64 * i)) Sha256.initialState
  ⟨(state.toList.flatMap fun (w : UInt32) =>
    [(w >>> 24).toUInt8, (w >>> 16).toUInt8, (w >>> 8).toUInt8, w.toUInt8]).toArray⟩

/-- The digest in lower-case hexadecimal: the fingerprint by which a blob is recognised. -/
def fingerprint (message : ByteArray) : String := toHex (sha256 message)

end Diffusion.Bytes
