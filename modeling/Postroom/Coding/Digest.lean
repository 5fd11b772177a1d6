import Postroom.Text.Basic

/-!
# Digests

The digests by which texts are told apart.  Each takes blocks of octets into a short state; its
constants are the fractional parts of roots of the first primes, or sines.

* `Digest.md5`, `Digest.sha1`, `Digest.sha256`, `Digest.sha512` — the octets of a digest;
* `Digest.hex` — octets in hexadecimal digits.
-/

namespace Postroom.Digest

/-- Octets in hexadecimal digits. -/
def hex (bytes : Octets) : Text :=
  bytes.flatMap fun b => [Nat.digitChar (b.toNat / 16), Nat.digitChar (b.toNat % 16)]

/-- The octets of a number, the highest one first. -/
def bigEndian : Nat → Nat → Octets
  | 0, _ => []
  | count + 1, n => bigEndian count (n / 256) ++ [UInt8.ofNat n]

/-- The number of octets, the highest one first. -/
def ofBigEndian (bytes : Octets) : Nat :=
  bytes.foldl (fun n b => n * 256 + b.toNat) 0

/-- A message filled up to whole blocks: a one bit, zeros, and the number of its bits. -/
def padded (block lengthSize : Nat) (isLittle : Bool) (bytes : Octets) : Octets :=
  let used := (bytes.length + 1 + lengthSize) % block
  let zeros := List.replicate ((block - used) % block) (0 : UInt8)
  let size := bigEndian lengthSize (8 * bytes.length)
  bytes ++ 128 :: zeros ++ (if isLittle then size.reverse else size)

/-- The parts of a list, each of the given size, with fuel. -/
def parts {α : Type} (size : Nat) : Nat → List α → List (List α)
  | 0, _ | _, [] => []
  | fuel + 1, xs => xs.take size :: parts size fuel (xs.drop size)

/-- Whole blocks of a message. -/
def blocks (block : Nat) (bytes : Octets) : List Octets :=
  parts block (bytes.length / block + 1) bytes

/-- The first primes, from those below a bound. -/
def primes (bound : Nat) : List Nat :=
  (List.range bound).filter fun n =>
    2 ≤ n && (List.range n).all fun d => d < 2 || n % d ≠ 0

/-- The largest number whose power is at most a given one, found bit by bit from the given bit
on. -/
def root (power : Nat) (n : Nat) : Nat → Nat → Nat
  | 0, r => r
  | bit + 1, r =>
    let larger := r + Nat.pow 2 bit
    root power n bit (if Nat.pow larger power ≤ n then larger else r)

/-- The first bits of the fractional part of a root of a number. -/
def rootBits (power bits n : Nat) : Nat :=
  root power (n * Nat.pow 2 (power * bits)) (bits + 8) 0 % Nat.pow 2 bits

/-! ## Digests of words of 32 bits -/

/-- A word turned to the left. -/
def turnLeft (x : UInt32) (n : UInt32) : UInt32 :=
  (x <<< n) ||| (x >>> (32 - n))

/-- A word turned to the right. -/
def turnRight (x : UInt32) (n : UInt32) : UInt32 :=
  (x >>> n) ||| (x <<< (32 - n))

/-- The words of a block. -/
def words32 (isLittle : Bool) (block : Octets) : List UInt32 :=
  (parts 4 16 block).map fun bs => UInt32.ofNat (ofBigEndian (if isLittle then bs.reverse else bs))

/-- The octets of words. -/
def octets32 (isLittle : Bool) (ws : List UInt32) : Octets :=
  ws.flatMap fun w =>
    let bs := bigEndian 4 w.toNat
    if isLittle then bs.reverse else bs

/-- The constants of the rounds of `md5`. -/
def sines : Array UInt32 :=
  ((List.range 64).map fun i =>
    ((Float.sin (Float.ofNat (i + 1))).abs * 4294967296).toUInt64.toUInt32).toArray

/-- How far words are turned in the rounds of `md5`. -/
def md5Turns : Array UInt32 :=
  #[7, 12, 17, 22, 5, 9, 14, 20, 4, 11, 16, 23, 6, 10, 15, 21]

/-- Takes a block into the state of `md5`. -/
def md5Block (s : UInt32 × UInt32 × UInt32 × UInt32) (block : Octets) :
    UInt32 × UInt32 × UInt32 × UInt32 :=
  let ws := (words32 true block).toArray
  let round (s : UInt32 × UInt32 × UInt32 × UInt32) (i : Nat) : UInt32 × UInt32 × UInt32 × UInt32 :=
    let (a, b, c, d) := s
    let (f, k) : UInt32 × Nat :=
      match i / 16 with
      | 0 => ((b &&& c) ||| (~~~b &&& d), i)
      | 1 => ((d &&& b) ||| (~~~d &&& c), (5 * i + 1) % 16)
      | 2 => (b ^^^ c ^^^ d, (3 * i + 5) % 16)
      | _ => (c ^^^ (b ||| ~~~d), (7 * i) % 16)
    let sum := a + f + sines.getD i 0 + ws.getD k 0
    (d, b + turnLeft sum (md5Turns.getD (i / 16 * 4 + i % 4) 0), b, c)
  let (a, b, c, d) := (List.range 64).foldl round s
  (s.1 + a, s.2.1 + b, s.2.2.1 + c, s.2.2.2 + d)

/-- The digest `md5`. -/
def md5 (bytes : Octets) : Octets :=
  let (a, b, c, d) := (blocks 64 (padded 64 8 true bytes)).foldl md5Block
    (0x67452301, 0xefcdab89, 0x98badcfe, 0x10325476)
  octets32 true [a, b, c, d]

/-- Takes a block into the state of `sha1`. -/
def sha1Block (s : List UInt32) (block : Octets) : List UInt32 :=
  let ws := (List.range 64).foldl
    (fun (ws : Array UInt32) i =>
      ws.push (turnLeft (ws.getD (i + 13) 0 ^^^ ws.getD (i + 8) 0 ^^^ ws.getD (i + 2) 0
        ^^^ ws.getD i 0) 1))
    (words32 false block).toArray
  let round (s : List UInt32) (i : Nat) : List UInt32 :=
    match s with
    | [a, b, c, d, e] =>
      let (f, k) : UInt32 × UInt32 :=
        match i / 20 with
        | 0 => ((b &&& c) ||| (~~~b &&& d), 0x5a827999)
        | 1 => (b ^^^ c ^^^ d, 0x6ed9eba1)
        | 2 => ((b &&& c) ||| (b &&& d) ||| (c &&& d), 0x8f1bbcdc)
        | _ => (b ^^^ c ^^^ d, 0xca62c1d6)
      [turnLeft a 5 + f + e + k + ws.getD i 0, a, turnLeft b 30, c, d]
    | s => s
  List.zipWith (· + ·) s ((List.range 80).foldl round s)

/-- The digest `sha1`. -/
def sha1 (bytes : Octets) : Octets :=
  octets32 false ((blocks 64 (padded 64 8 false bytes)).foldl sha1Block
    [0x67452301, 0xefcdab89, 0x98badcfe, 0x10325476, 0xc3d2e1f0])

/-- The constants of the rounds of `sha256`. -/
def cubeRoots32 : Array UInt32 :=
  ((primes 312).map fun p => UInt32.ofNat (rootBits 3 32 p)).toArray

/-- Takes a block into the state of `sha256`. -/
def sha256Block (ks : Array UInt32) (s : List UInt32) (block : Octets) : List UInt32 :=
  let ws := (List.range 48).foldl
    (fun (ws : Array UInt32) i =>
      let x := ws.getD (i + 1) 0
      let y := ws.getD (i + 14) 0
      let a := turnRight x 7 ^^^ turnRight x 18 ^^^ (x >>> 3)
      let b := turnRight y 17 ^^^ turnRight y 19 ^^^ (y >>> 10)
      ws.push (ws.getD i 0 + a + ws.getD (i + 9) 0 + b))
    (words32 false block).toArray
  let round (s : List UInt32) (i : Nat) : List UInt32 :=
    match s with
    | [a, b, c, d, e, f, g, h] =>
      let t := h + (turnRight e 6 ^^^ turnRight e 11 ^^^ turnRight e 25)
        + ((e &&& f) ^^^ (~~~e &&& g)) + ks.getD i 0 + ws.getD i 0
      let u := (turnRight a 2 ^^^ turnRight a 13 ^^^ turnRight a 22)
        + ((a &&& b) ^^^ (a &&& c) ^^^ (b &&& c))
      [t + u, a, b, c, d + t, e, f, g]
    | s => s
  List.zipWith (· + ·) s ((List.range 64).foldl round s)

/-- The digest `sha256`. -/
def sha256 (bytes : Octets) : Octets :=
  octets32 false ((blocks 64 (padded 64 8 false bytes)).foldl (sha256Block cubeRoots32)
    ((primes 20).map fun p => UInt32.ofNat (rootBits 2 32 p)))

/-- The digest `sha224`, which begins with the lower halves of what `sha384` begins with. -/
def sha224 (bytes : Octets) : Octets :=
  (octets32 false ((blocks 64 (padded 64 8 false bytes)).foldl (sha256Block cubeRoots32)
    (((primes 54).drop 8).map fun p => UInt32.ofNat (rootBits 2 64 p)))).take 28

/-! ## Digests of words of 64 bits -/

/-- A word turned to the right. -/
def turnRight64 (x : UInt64) (n : UInt64) : UInt64 :=
  (x >>> n) ||| (x <<< (64 - n))

/-- The constants of the rounds of `sha512`. -/
def cubeRoots64 : Array UInt64 :=
  ((primes 410).map fun p => UInt64.ofNat (rootBits 3 64 p)).toArray

/-- Takes a block into the state of `sha512`. -/
def sha512Block (ks : Array UInt64) (s : List UInt64) (block : Octets) : List UInt64 :=
  let ws := (List.range 64).foldl
    (fun (ws : Array UInt64) i =>
      let x := ws.getD (i + 1) 0
      let y := ws.getD (i + 14) 0
      let a := turnRight64 x 1 ^^^ turnRight64 x 8 ^^^ (x >>> 7)
      let b := turnRight64 y 19 ^^^ turnRight64 y 61 ^^^ (y >>> 6)
      ws.push (ws.getD i 0 + a + ws.getD (i + 9) 0 + b))
    ((parts 8 16 block).map fun bs => UInt64.ofNat (ofBigEndian bs)).toArray
  let round (s : List UInt64) (i : Nat) : List UInt64 :=
    match s with
    | [a, b, c, d, e, f, g, h] =>
      let t := h + (turnRight64 e 14 ^^^ turnRight64 e 18 ^^^ turnRight64 e 41)
        + ((e &&& f) ^^^ (~~~e &&& g)) + ks.getD i 0 + ws.getD i 0
      let u := (turnRight64 a 28 ^^^ turnRight64 a 34 ^^^ turnRight64 a 39)
        + ((a &&& b) ^^^ (a &&& c) ^^^ (b &&& c))
      [t + u, a, b, c, d + t, e, f, g]
    | s => s
  List.zipWith (· + ·) s ((List.range 80).foldl round s)

/-- The octets of the state of `sha512` after all blocks, from a given one on. -/
def sha512From (start : List UInt64) (bytes : Octets) : Octets :=
  ((blocks 128 (padded 128 16 false bytes)).foldl (sha512Block cubeRoots64) start).flatMap fun w =>
    bigEndian 8 w.toNat

/-- The digest `sha512`. -/
def sha512 (bytes : Octets) : Octets :=
  sha512From ((primes 20).map fun p => UInt64.ofNat (rootBits 2 64 p)) bytes

/-- The digest `sha384`. -/
def sha384 (bytes : Octets) : Octets :=
  (sha512From (((primes 54).drop 8).map fun p => UInt64.ofNat (rootBits 2 64 p)) bytes).take 48

/-! ## Check sums -/

/-- Takes an octet into a check sum of 32 bits. -/
def cksumStep (sum : UInt32) (b : UInt8) : UInt32 :=
  (List.range 8).foldl
    (fun (sum : UInt32) _ =>
      if sum &&& 0x80000000 = 0 then sum <<< 1 else (sum <<< 1) ^^^ 0x04c11db7)
    (sum ^^^ (b.toUInt32 <<< 24))

/-- The octets of a number, the lowest one first and without zeros at the end. -/
def lowOctets : Nat → Nat → Octets
  | 0, _ => []
  | _, 0 => []
  | fuel + 1, n => UInt8.ofNat (n % 256) :: lowOctets fuel (n / 256)

/-- The check sum of octets and of their number. -/
def cksum (bytes : Octets) : UInt32 :=
  ~~~((bytes ++ lowOctets 8 bytes.length).foldl cksumStep 0)

end Postroom.Digest
