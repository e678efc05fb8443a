import Mathlib.Data.List.Defs
import Mathlib.Algebra.Ring.Nat

/-! SHA-256 over lists of bytes: `hashlib.sha256(message).digest()`. Words are natural numbers below
`2 ^ 32`. -/

namespace Library.Sha256

/-- Addition modulo the word size. -/
def add (words : List Nat) : Nat := words.sum % 2 ^ 32

def rotateRight (word count : Nat) : Nat := word >>> count ||| word <<< (32 - count) % 2 ^ 32

def smallSigma0 (word : Nat) : Nat := rotateRight word 7 ^^^ rotateRight word 18 ^^^ word >>> 3

def smallSigma1 (word : Nat) : Nat := rotateRight word 17 ^^^ rotateRight word 19 ^^^ word >>> 10

def bigSigma0 (word : Nat) : Nat :=
  rotateRight word 2 ^^^ rotateRight word 13 ^^^ rotateRight word 22

def bigSigma1 (word : Nat) : Nat :=
  rotateRight word 6 ^^^ rotateRight word 11 ^^^ rotateRight word 25

/-- Choose: the bits of `f` where `e` is set and those of `g` elsewhere. -/
def choose (e f g : Nat) : Nat := e &&& f ^^^ (2 ^ 32 - 1 - e) &&& g

def majority (a b c : Nat) : Nat := a &&& b ^^^ a &&& c ^^^ b &&& c

def roundConstants : List Nat := [
  0x428a2f98, 0x71374491, 0xb5c0fbcf, 0xe9b5dba5, 0x3956c25b, 0x59f111f1, 0x923f82a4, 0xab1c5ed5,
  0xd807aa98, 0x12835b01, 0x243185be, 0x550c7dc3, 0x72be5d74, 0x80deb1fe, 0x9bdc06a7, 0xc19bf174,
  0xe49b69c1, 0xefbe4786, 0x0fc19dc6, 0x240ca1cc, 0x2de92c6f, 0x4a7484aa, 0x5cb0a9dc, 0x76f988da,
  0x983e5152, 0xa831c66d, 0xb00327c8, 0xbf597fc7, 0xc6e00bf3, 0xd5a79147, 0x06ca6351, 0x14292967,
  0x27b70a85, 0x2e1b2138, 0x4d2c6dfc, 0x53380d13, 0x650a7354, 0x766a0abb, 0x81c2c92e, 0x92722c85,
  0xa2bfe8a1, 0xa81a664b, 0xc24b8b70, 0xc76c51a3, 0xd192e819, 0xd6990624, 0xf40e3585, 0x106aa070,
  0x19a4c116, 0x1e376c08, 0x2748774c, 0x34b0bcb5, 0x391c0cb3, 0x4ed8aa4a, 0x5b9cca4f, 0x682e6ff3,
  0x748f82ee, 0x78a5636f, 0x84c87814, 0x8cc70208, 0x90befffa, 0xa4506ceb, 0xbef9a3f7, 0xc67178f2]

/-- The eight words of the chaining value. -/
structure Digest where
  a : Nat
  b : Nat
  c : Nat
  d : Nat
  e : Nat
  f : Nat
  g : Nat
  h : Nat

def Digest.initial : Digest where
  a := 0x6a09e667
  b := 0xbb67ae85
  c := 0x3c6ef372
  d := 0xa54ff53a
  e := 0x510e527f
  f := 0x9b05688c
  g := 0x1f83d9ab
  h := 0x5be0cd19

/-- A number as bytes, the most significant first. -/
def bigEndian (width value : Nat) : List Nat :=
  (List.range width).map fun i => value / 256 ^ (width - 1 - i) % 256

/-- The number that bytes stand for, the most significant first. -/
def ofBigEndian (bytes : List Nat) : Nat := bytes.foldl (fun value byte => value * 256 + byte) 0

/-- The message with its end mark, zeros up to a whole number of blocks and its length in bits. -/
def pad (message : List Nat) : List Nat :=
  message ++ [0x80] ++ List.replicate ((119 - message.length % 64) % 64) 0 ++
    bigEndian 8 (8 * message.length)

def pieces (width : Nat) : Nat → List Nat → List (List Nat)
  | 0, _ => []
  | count + 1, bytes => bytes.take width :: pieces width count (bytes.drop width)

/-- `count` more words of the schedule, which is given in reverse. -/
def extend : Nat → List Nat → List Nat
  | 0, words => words
  | count + 1, words =>
    extend count (add [smallSigma1 (words.getD 1 0), words.getD 6 0,
      smallSigma0 (words.getD 14 0), words.getD 15 0] :: words)

def schedule (block : List Nat) : List Nat :=
  (extend 48 ((pieces 4 16 block).map ofBigEndian).reverse).reverse

def Digest.round (digest : Digest) (input : Nat × Nat) : Digest :=
  let first := add [digest.h, bigSigma1 digest.e, choose digest.e digest.f digest.g, input.1, input.2]
  let second := add [bigSigma0 digest.a, majority digest.a digest.b digest.c]
  { a := add [first, second]
    b := digest.a
    c := digest.b
    d := digest.c
    e := add [digest.d, first]
    f := digest.e
    g := digest.f
    h := digest.g }

def Digest.compress (digest : Digest) (block : List Nat) : Digest :=
  let mixed := (roundConstants.zip (schedule block)).foldl Digest.round digest
  { a := add [digest.a, mixed.a]
    b := add [digest.b, mixed.b]
    c := add [digest.c, mixed.c]
    d := add [digest.d, mixed.d]
    e := add [digest.e, mixed.e]
    f := add [digest.f, mixed.f]
    g := add [digest.g, mixed.g]
    h := add [digest.h, mixed.h] }

def sha256 (message : List Nat) : List Nat :=
  let padded := pad message
  let digest := (pieces 64 (padded.length / 64) padded).foldl Digest.compress .initial
  [digest.a, digest.b, digest.c, digest.d, digest.e, digest.f, digest.g, digest.h].flatMap
    (bigEndian 4)

/-- `text.encode()`. -/
def encode (text : String) : List Nat :=
  text.toList.flatMap fun c => (String.utf8EncodeChar c).map UInt8.toNat

example : sha256 (encode "abc") =
    bigEndian 32 0xba7816bf8f01cfea414140de5dae2223b00361a396177a9cb410ff61f20015ad := by
  decide +kernel

end Library.Sha256
