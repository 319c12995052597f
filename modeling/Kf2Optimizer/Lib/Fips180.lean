/-
# SHA-256

The hash function of FIPS 180-4, over lists of bytes.  Words are natural numbers below 2^32, so
that a digest is computed with the arithmetic of the kernel.
-/
import Kf2Optimizer.Lib.Text

namespace Fips180

open Text

/-! ## 1. Words -/

def word (n : ℕ) : ℕ := n % 0x100000000

/-- A word twice in a row: to shift it is to rotate the word. -/
def twice (x : ℕ) : ℕ := x * 0x100000001

def ch (x y z : ℕ) : ℕ := (x &&& y) ^^^ ((x ^^^ 0xFFFFFFFF) &&& z)
def maj (x y z : ℕ) : ℕ := (x &&& y) ^^^ (x &&& z) ^^^ (y &&& z)

def bigSigma0 (x : ℕ) : ℕ := word ((twice x >>> 2) ^^^ (twice x >>> 13) ^^^ (twice x >>> 22))
def bigSigma1 (x : ℕ) : ℕ := word ((twice x >>> 6) ^^^ (twice x >>> 11) ^^^ (twice x >>> 25))
def smallSigma0 (x : ℕ) : ℕ := word ((twice x >>> 7) ^^^ (twice x >>> 18)) ^^^ (x >>> 3)
def smallSigma1 (x : ℕ) : ℕ := word ((twice x >>> 17) ^^^ (twice x >>> 19)) ^^^ (x >>> 10)

def constants : List ℕ := [
  0x428a2f98, 0x71374491, 0xb5c0fbcf, 0xe9b5dba5, 0x3956c25b, 0x59f111f1, 0x923f82a4, 0xab1c5ed5,
  0xd807aa98, 0x12835b01, 0x243185be, 0x550c7dc3, 0x72be5d74, 0x80deb1fe, 0x9bdc06a7, 0xc19bf174,
  0xe49b69c1, 0xefbe4786, 0x0fc19dc6, 0x240ca1cc, 0x2de92c6f, 0x4a7484aa, 0x5cb0a9dc, 0x76f988da,
  0x983e5152, 0xa831c66d, 0xb00327c8, 0xbf597fc7, 0xc6e00bf3, 0xd5a79147, 0x06ca6351, 0x14292967,
  0x27b70a85, 0x2e1b2138, 0x4d2c6dfc, 0x53380d13, 0x650a7354, 0x766a0abb, 0x81c2c92e, 0x92722c85,
  0xa2bfe8a1, 0xa81a664b, 0xc24b8b70, 0xc76c51a3, 0xd192e819, 0xd6990624, 0xf40e3585, 0x106aa070,
  0x19a4c116, 0x1e376c08, 0x2748774c, 0x34b0bcb5, 0x391c0cb3, 0x4ed8aa4a, 0x5b9cca4f, 0x682e6ff3,
  0x748f82ee, 0x78a5636f, 0x84c87814, 0x8cc70208, 0x90befffa, 0xa4506ceb, 0xbef9a3f7, 0xc67178f2]

/-! ## 2. Blocks -/

structure State where
  a : ℕ
  b : ℕ
  c : ℕ
  d : ℕ
  e : ℕ
  f : ℕ
  g : ℕ
  h : ℕ

def initial : State := {
  a := 0x6a09e667, b := 0xbb67ae85, c := 0x3c6ef372, d := 0xa54ff53a
  e := 0x510e527f, f := 0x9b05688c, g := 0x1f83d9ab, h := 0x5be0cd19 }

/-- One round, with its constant and the word of the schedule. -/
def State.round (s : State) (k w : ℕ) : State :=
  let t1 := s.h + bigSigma1 s.e + ch s.e s.f s.g + k + w
  let t2 := bigSigma0 s.a + maj s.a s.b s.c
  ⟨word (t1 + t2), s.a, s.b, s.c, word (s.d + t1), s.e, s.f, s.g⟩

def State.add (s t : State) : State :=
  ⟨word (s.a + t.a), word (s.b + t.b), word (s.c + t.c), word (s.d + t.d),
    word (s.e + t.e), word (s.f + t.f), word (s.g + t.g), word (s.h + t.h)⟩

/-- The sixteen words of the schedule that come next. -/
structure Window where
  w0 : ℕ
  w1 : ℕ
  w2 : ℕ
  w3 : ℕ
  w4 : ℕ
  w5 : ℕ
  w6 : ℕ
  w7 : ℕ
  w8 : ℕ
  w9 : ℕ
  w10 : ℕ
  w11 : ℕ
  w12 : ℕ
  w13 : ℕ
  w14 : ℕ
  w15 : ℕ

/-- The first word leaves, and the one that follows from the sixteen comes in. -/
def Window.shift (w : Window) : Window :=
  ⟨w.w1, w.w2, w.w3, w.w4, w.w5, w.w6, w.w7, w.w8, w.w9, w.w10, w.w11, w.w12, w.w13, w.w14, w.w15,
    word (smallSigma1 w.w14 + w.w9 + smallSigma0 w.w1 + w.w0)⟩

def rounds (s : State) : List ℕ → Window → State
  | [], _ => s
  | k :: ks, w => rounds (s.round k w.w0) ks w.shift

def Window.ofBlock (b : List ℕ) : Window :=
  ⟨b.getD 0 0, b.getD 1 0, b.getD 2 0, b.getD 3 0, b.getD 4 0, b.getD 5 0, b.getD 6 0, b.getD 7 0,
    b.getD 8 0, b.getD 9 0, b.getD 10 0, b.getD 11 0, b.getD 12 0, b.getD 13 0, b.getD 14 0,
    b.getD 15 0⟩

def compress (s : State) (block : List ℕ) : State :=
  s.add (rounds s constants (Window.ofBlock block))

/-! ## 3. Messages -/

/-- A number in `n` bytes, the high ones first. -/
def bigEndian : ℕ → ℕ → Bytes
  | 0, _ => []
  | n + 1, x => bigEndian n (x / 256) ++ [UInt8.ofNat (x % 256)]

@[simp] theorem length_bigEndian (n x : ℕ) : (bigEndian n x).length = n := by
  induction n generalizing x with
  | zero => rfl
  | succ n ih => simp [bigEndian, ih]

def padded (message : Bytes) : Bytes :=
  message ++ 0x80 :: List.replicate ((119 - message.length % 64) % 64) 0 ++
    bigEndian 8 (8 * message.length)

def words : Bytes → List ℕ
  | a :: b :: c :: d :: rest =>
    (((a.toNat * 256 + b.toNat) * 256 + c.toNat) * 256 + d.toNat) :: words rest
  | _ => []

/-- The state after the blocks of sixteen words, with a bound on their number. -/
def absorb : ℕ → State → List ℕ → State
  | 0, s, _ => s
  | n + 1, s, ws =>
    if ws = [] then s else absorb n (compress s (ws.take 16)) (ws.drop 16)

def sha256 (message : Bytes) : Bytes :=
  let ws := words (padded message)
  let s := absorb (ws.length / 16) initial ws
  [s.a, s.b, s.c, s.d, s.e, s.f, s.g, s.h].flatMap (bigEndian 4)

theorem length_sha256 (message : Bytes) : (sha256 message).length = 32 := by
  simp [sha256]

example : hexEncode (sha256 (ascii "abc")) =
    ascii "ba7816bf8f01cfea414140de5dae2223b00361a396177a9cb410ff61f20015ad" := by decide +kernel

end Fips180
