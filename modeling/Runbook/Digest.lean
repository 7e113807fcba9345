import Runbook.Text.Digits

/-!
The 64-bit xxh3 digest with its default secret and seed zero, and the tag that a document is
recognised by. Words are read in little-endian order; reading past the end gives zero bytes,
which no case below does.
-/

namespace Runbook.Digest

def secret : ByteArray := ⟨#[
  0xb8, 0xfe, 0x6c, 0x39, 0x23, 0xa4, 0x4b, 0xbe, 0x7c, 0x01, 0x81, 0x2c, 0xf7, 0x21, 0xad, 0x1c,
  0xde, 0xd4, 0x6d, 0xe9, 0x83, 0x90, 0x97, 0xdb, 0x72, 0x40, 0xa4, 0xa4, 0xb7, 0xb3, 0x67, 0x1f,
  0xcb, 0x79, 0xe6, 0x4e, 0xcc, 0xc0, 0xe5, 0x78, 0x82, 0x5a, 0xd0, 0x7d, 0xcc, 0xff, 0x72, 0x21,
  0xb8, 0x08, 0x46, 0x74, 0xf7, 0x43, 0x24, 0x8e, 0xe0, 0x35, 0x90, 0xe6, 0x81, 0x3a, 0x26, 0x4c,
  0x3c, 0x28, 0x52, 0xbb, 0x91, 0xc3, 0x00, 0xcb, 0x88, 0xd0, 0x65, 0x8b, 0x1b, 0x53, 0x2e, 0xa3,
  0x71, 0x64, 0x48, 0x97, 0xa2, 0x0d, 0xf9, 0x4e, 0x38, 0x19, 0xef, 0x46, 0xa9, 0xde, 0xac, 0xd8,
  0xa8, 0xfa, 0x76, 0x3f, 0xe3, 0x9c, 0x34, 0x3f, 0xf9, 0xdc, 0xbb, 0xc7, 0xc7, 0x0b, 0x4f, 0x1d,
  0x8a, 0x51, 0xe0, 0x4b, 0xcd, 0xb4, 0x59, 0x31, 0xc8, 0x9f, 0x7e, 0xc9, 0xd9, 0x78, 0x73, 0x64,
  0xea, 0xc5, 0xac, 0x83, 0x34, 0xd3, 0xeb, 0xc3, 0xc5, 0x81, 0xa0, 0xff, 0xfa, 0x13, 0x63, 0xeb,
  0x17, 0x0d, 0xdd, 0x51, 0xb7, 0xf0, 0xda, 0x49, 0xd3, 0x16, 0x55, 0x26, 0x29, 0xd4, 0x68, 0x9e,
  0x2b, 0x16, 0xbe, 0x58, 0x7d, 0x47, 0xa1, 0xfc, 0x8f, 0xf8, 0xb8, 0xd1, 0x7a, 0xd0, 0x31, 0xce,
  0x45, 0xcb, 0x3a, 0x8f, 0x95, 0x16, 0x04, 0x28, 0xaf, 0xd7, 0xfb, 0xca, 0xbb, 0x4b, 0x40, 0x7e]⟩

def prime32a : UInt64 := 0x9e3779b1
def prime32b : UInt64 := 0x85ebca77
def prime32c : UInt64 := 0xc2b2ae3d
def prime64a : UInt64 := 0x9e3779b185ebca87
def prime64b : UInt64 := 0xc2b2ae3d27d4eb4f
def prime64c : UInt64 := 0x165667b19e3779f9
def prime64d : UInt64 := 0x85ebca77c2b2ae63
def prime64e : UInt64 := 0x27d4eb2f165667c5
def primeMixA : UInt64 := 0x165667919e3779f9
def primeMixB : UInt64 := 0x9fb21c651e98df25

def byteAt (b : ByteArray) (i : Nat) : UInt64 :=
  if h : i < b.size then b[i].toUInt64 else 0

def word32 (b : ByteArray) (i : Nat) : UInt64 :=
  byteAt b i ||| (byteAt b (i + 1) <<< 8) ||| (byteAt b (i + 2) <<< 16) |||
    (byteAt b (i + 3) <<< 24)

def word64 (b : ByteArray) (i : Nat) : UInt64 :=
  word32 b i ||| (word32 b (i + 4) <<< 32)

def rotateLeft (x : UInt64) (n : UInt64) : UInt64 := (x <<< n) ||| (x >>> (64 - n))

def swapBytes (x : UInt64) : UInt64 :=
  (List.range 8).foldl (fun acc i => (acc <<< 8) ||| ((x >>> (8 * i.toUInt64)) &&& 0xff)) 0

/-- Both halves of the 128-bit product, combined by exclusive or. -/
def foldedProduct (a b : UInt64) : UInt64 :=
  let p := a.toNat * b.toNat
  UInt64.ofNat p ^^^ UInt64.ofNat (p / twoTo 64)

def finishShort (h : UInt64) : UInt64 :=
  let h := (h ^^^ (h >>> 33)) * prime64b
  let h := (h ^^^ (h >>> 29)) * prime64c
  h ^^^ (h >>> 32)

def finish (h : UInt64) : UInt64 :=
  let h := (h ^^^ (h >>> 37)) * primeMixA
  h ^^^ (h >>> 32)

def mix16 (b : ByteArray) (i k : Nat) : UInt64 :=
  foldedProduct (word64 b i ^^^ word64 secret k) (word64 b (i + 8) ^^^ word64 secret (k + 8))

def digest1to3 (b : ByteArray) : UInt64 :=
  let n := b.size
  let combined := (byteAt b 0 <<< 16) ||| (byteAt b (n / 2) <<< 24) ||| byteAt b (n - 1) |||
    (n.toUInt64 <<< 8)
  finishShort (combined ^^^ (word32 secret 0 ^^^ word32 secret 4))

def digest4to8 (b : ByteArray) : UInt64 :=
  let n := b.size
  let input := word32 b (n - 4) + (word32 b 0 <<< 32)
  let h := input ^^^ (word64 secret 8 ^^^ word64 secret 16)
  let h := (h ^^^ rotateLeft h 49 ^^^ rotateLeft h 24) * primeMixB
  let h := (h ^^^ ((h >>> 35) + n.toUInt64)) * primeMixB
  h ^^^ (h >>> 28)

def digest9to16 (b : ByteArray) : UInt64 :=
  let n := b.size
  let low := word64 b 0 ^^^ (word64 secret 24 ^^^ word64 secret 32)
  let high := word64 b (n - 8) ^^^ (word64 secret 40 ^^^ word64 secret 48)
  finish (n.toUInt64 + swapBytes low + high + foldedProduct low high)

/-- The pairs of blocks are taken from both ends inwards. -/
def digest17to128 (b : ByteArray) : UInt64 :=
  let n := b.size
  let pair (i : Nat) : UInt64 :=
    mix16 b (16 * i) (32 * i) + mix16 b (n - 16 * (i + 1)) (32 * i + 16)
  let pairs := if n > 96 then 4 else if n > 64 then 3 else if n > 32 then 2 else 1
  finish ((List.range pairs).foldl (fun acc i => acc + pair i) (n.toUInt64 * prime64a))

def digest129to240 (b : ByteArray) : UInt64 :=
  let n := b.size
  let head := (List.range 8).foldl (fun acc i => acc + mix16 b (16 * i) (16 * i))
    (n.toUInt64 * prime64a)
  let tail := (List.range (n / 16 - 8)).foldl
    (fun acc i => acc + mix16 b (16 * (i + 8)) (16 * i + 3)) (finish head)
  finish (tail + mix16 b (n - 16) 119)

abbrev Lanes := Vector UInt64 8

def Lanes.initial : Lanes :=
  #v[prime32c, prime64a, prime64b, prime64c, prime64d, prime32b, prime64e, prime32a]

def Lanes.absorb (b : ByteArray) (lanes : Lanes) (i k : Nat) : Lanes :=
  Vector.ofFn fun lane : Fin 8 =>
    let neighbour := if lane.val % 2 = 0 then lane.val + 1 else lane.val - 1
    let keyed := word64 b (i + 8 * lane.val) ^^^ word64 secret (k + 8 * lane.val)
    lanes[lane] + word64 b (i + 8 * neighbour) + (keyed &&& (0xffffffff : UInt64)) * (keyed >>> 32)

def Lanes.scramble (lanes : Lanes) : Lanes :=
  Vector.ofFn fun lane : Fin 8 =>
    let x := lanes[lane]
    (x ^^^ (x >>> 47) ^^^ word64 secret (128 + 8 * lane.val)) * prime32a

def Lanes.absorbMany (b : ByteArray) (lanes : Lanes) (start count : Nat) : Lanes :=
  (List.range count).foldl (fun lanes j => lanes.absorb b (start + 64 * j) (8 * j)) lanes

def Lanes.merge (lanes : Lanes) (start : UInt64) : UInt64 :=
  finish ((List.finRange 4).foldl (fun acc i =>
    acc + foldedProduct (lanes[2 * i.val] ^^^ word64 secret (11 + 16 * i.val))
      (lanes[2 * i.val + 1] ^^^ word64 secret (19 + 16 * i.val))) start)

/-- Blocks of 1024 bytes, then the stripes that remain, then the last 64 bytes once more. -/
def digestLong (b : ByteArray) : UInt64 :=
  let n := b.size
  let blocks := (n - 1) / 1024
  let lanes := (List.range blocks).foldl
    (fun lanes j => (lanes.absorbMany b (1024 * j) 16).scramble) Lanes.initial
  let lanes := lanes.absorbMany b (1024 * blocks) ((n - 1 - 1024 * blocks) / 64)
  (lanes.absorb b (n - 64) 121).merge (n.toUInt64 * prime64a)

def xxh3 (b : ByteArray) : UInt64 :=
  let n := b.size
  if n = 0 then finishShort (word64 secret 56 ^^^ word64 secret 64)
  else if n ≤ 3 then digest1to3 b
  else if n ≤ 8 then digest4to8 b
  else if n ≤ 16 then digest9to16 b
  else if n ≤ 128 then digest17to128 b
  else if n ≤ 240 then digest129to240 b
  else digestLong b

def hex16 (x : UInt64) : String := .ofList (Text.padZeros 16 (Text.hex x.toNat))

end Runbook.Digest

namespace Runbook

/-- The tag of a whole document text: an edit gives another tag, but it is no guard against
an adversary. -/
def contentHash (text : String) : String := "xxh3:" ++ Digest.hex16 (Digest.xxh3 text.toUTF8)

end Runbook
