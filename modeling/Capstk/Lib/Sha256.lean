import Mathlib.Algebra.Group.Nat.Defs
import Mathlib.Data.List.GetD

/-!
# SHA-256

The digest of FIPS 180-4 over a list of bytes, and its text in lowercase hexadecimal digits.
-/

namespace Sha256

abbrev Word := BitVec 32

/-- The working variables `a` to `h`, or the hash value `H₀` to `H₇`. -/
structure State where
  a : Word
  b : Word
  c : Word
  d : Word
  e : Word
  f : Word
  g : Word
  h : Word

def State.words (s : State) : List Word := [s.a, s.b, s.c, s.d, s.e, s.f, s.g, s.h]

def State.add (s t : State) : State :=
  ⟨s.a + t.a, s.b + t.b, s.c + t.c, s.d + t.d, s.e + t.e, s.f + t.f, s.g + t.g, s.h + t.h⟩

def initial : State :=
  ⟨0x6a09e667, 0xbb67ae85, 0x3c6ef372, 0xa54ff53a, 0x510e527f, 0x9b05688c, 0x1f83d9ab, 0x5be0cd19⟩

def constants : List Word := [
  0x428a2f98, 0x71374491, 0xb5c0fbcf, 0xe9b5dba5, 0x3956c25b, 0x59f111f1, 0x923f82a4, 0xab1c5ed5,
  0xd807aa98, 0x12835b01, 0x243185be, 0x550c7dc3, 0x72be5d74, 0x80deb1fe, 0x9bdc06a7, 0xc19bf174,
  0xe49b69c1, 0xefbe4786, 0x0fc19dc6, 0x240ca1cc, 0x2de92c6f, 0x4a7484aa, 0x5cb0a9dc, 0x76f988da,
  0x983e5152, 0xa831c66d, 0xb00327c8, 0xbf597fc7, 0xc6e00bf3, 0xd5a79147, 0x06ca6351, 0x14292967,
  0x27b70a85, 0x2e1b2138, 0x4d2c6dfc, 0x53380d13, 0x650a7354, 0x766a0abb, 0x81c2c92e, 0x92722c85,
  0xa2bfe8a1, 0xa81a664b, 0xc24b8b70, 0xc76c51a3, 0xd192e819, 0xd6990624, 0xf40e3585, 0x106aa070,
  0x19a4c116, 0x1e376c08, 0x2748774c, 0x34b0bcb5, 0x391c0cb3, 0x4ed8aa4a, 0x5b9cca4f, 0x682e6ff3,
  0x748f82ee, 0x78a5636f, 0x84c87814, 0x8cc70208, 0x90befffa, 0xa4506ceb, 0xbef9a3f7, 0xc67178f2]

def ch (x y z : Word) : Word := (x &&& y) ^^^ (~~~x &&& z)
def maj (x y z : Word) : Word := (x &&& y) ^^^ (x &&& z) ^^^ (y &&& z)
def bigSigma0 (x : Word) : Word := x.rotateRight 2 ^^^ x.rotateRight 13 ^^^ x.rotateRight 22
def bigSigma1 (x : Word) : Word := x.rotateRight 6 ^^^ x.rotateRight 11 ^^^ x.rotateRight 25
def smallSigma0 (x : Word) : Word := x.rotateRight 7 ^^^ x.rotateRight 18 ^^^ x >>> 3
def smallSigma1 (x : Word) : Word := x.rotateRight 17 ^^^ x.rotateRight 19 ^^^ x >>> 10

/-- `n` words of the message schedule, from the sixteen words before them on. -/
def schedule : Nat → List Word → List Word
  | 0, _ => []
  | n + 1, window =>
    let w (i : Nat) : Word := window.getD i 0
    w 0 :: schedule n (window.tail ++ [smallSigma1 (w 14) + w 9 + smallSigma0 (w 1) + w 0])

/-- One round, with the constant `k` and the word `w` of the schedule. -/
def round (s : State) (k w : Word) : State :=
  let t₁ := s.h + bigSigma1 s.e + ch s.e s.f s.g + k + w
  let t₂ := bigSigma0 s.a + maj s.a s.b s.c
  ⟨t₁ + t₂, s.a, s.b, s.c, s.d + t₁, s.e, s.f, s.g⟩

def compress (s : State) (block : List Word) : State :=
  s.add ((constants.zip (schedule 64 block)).foldl (fun s kw => round s kw.1 kw.2) s)

/-- The bytes of a number, most significant first. -/
def bigEndian (length n : Nat) : List Nat :=
  (List.range length).map fun i => n / 256 ^ (length - 1 - i) % 256

/-- The message with a one bit, zeros and its length in bits, up to a multiple of 64 bytes. -/
def pad (message : List Nat) : List Nat :=
  message ++ 0x80 :: List.replicate ((119 - message.length % 64) % 64) 0 ++ bigEndian 8
    (8 * message.length)

def word (bytes : List Nat) : Word := .ofNat 32 (bytes.foldl (fun acc b => acc * 256 + b) 0)

/-- The state after the first `n` blocks of the padded message. -/
def blocks : Nat → List Nat → State → State
  | 0, _, s => s
  | n + 1, bytes, s =>
    blocks n (bytes.drop 64)
      (compress s ((List.range 16).map fun i => word ((bytes.drop (4 * i)).take 4)))

def sum256 (message : List Nat) : State := blocks ((pad message).length / 64) (pad message) initial

/-! ### Text -/

def hexDigits : List Char := "0123456789abcdef".toList

def hexWord (w : Word) : List Char :=
  (List.range 8).map fun i => hexDigits.getD (w.toNat / 16 ^ (7 - i) % 16) '0'

/-- `hex.EncodeToString(sha256.Sum256([]byte(s)))` -/
def hex (s : String) : String :=
  String.ofList
    ((sum256 ((s.toList.flatMap String.utf8EncodeChar).map UInt8.toNat)).words.flatMap hexWord)

theorem length_hex (s : String) : (hex s).toList.length = 64 := by
  simp [hex, State.words, hexWord]

theorem mem_hexDigits_of_mem_hex {s : String} {c : Char} (h : c ∈ (hex s).toList) :
    c ∈ hexDigits := by
  rw [hex, String.toList_ofList, List.mem_flatMap] at h
  obtain ⟨w, -, hc⟩ := h
  obtain ⟨i, -, rfl⟩ := List.mem_map.1 hc
  have hlt : w.toNat / 16 ^ (7 - i) % 16 < hexDigits.length := Nat.mod_lt _ (by decide)
  rw [List.getD_eq_getElem _ _ hlt]
  exact List.getElem_mem hlt

example : hex "abc" = "ba7816bf8f01cfea414140de5dae2223b00361a396177a9cb410ff61f20015ad" := by
    decide +kernel

end Sha256
