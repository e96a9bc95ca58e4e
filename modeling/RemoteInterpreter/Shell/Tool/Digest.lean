import RemoteInterpreter.Text

/-!
# Digests

Short numbers by which long texts can be told from each other: the checksum of a cyclic
code, and the message digests that mix blocks of octets into a few words.
-/

namespace RemoteInterpreter.Shell.Tool.Digest

/-! Words from octets -/

def octetsOf (t : Text) : List Nat := t.map Char.toNat

/-- A number by its octets, the least last or the least first. -/
def bigWord (octets : List Nat) : Nat := octets.foldl (fun n b => 256 * n + b) 0

def littleWord (octets : List Nat) : Nat := bigWord octets.reverse

/-- The octets of a number, the least last. -/
def bigOctets : Nat → Nat → List Nat
  | 0, _ => []
  | count + 1, n => bigOctets count (n / 256) ++ [n % 256]

def littleOctets (count n : Nat) : List Nat := (bigOctets count n).reverse

def chunks {α : Type} (size : Nat) : Nat → List α → List (List α)
  | 0, _ | _ + 1, [] => []
  | fuel + 1, xs => xs.take size :: chunks size fuel (xs.drop size)

/-- Blocks of a size: behind the octets stand a mark, zeros, and how many bits there were. -/
def blocks (size : Nat) (isBig : Bool) (octets : List Nat) : List (List Nat) :=
  let lengthSize := size / 8
  let n := octets.length
  let gap := (size - (n + 1 + lengthSize) % size) % size
  let bits := if isBig then bigOctets lengthSize (8 * n) else littleOctets lengthSize (8 * n)
  let all := octets ++ 128 :: List.replicate gap 0 ++ bits
  chunks size (all.length + 1) all

def hexDigits (octets : List Nat) : Text :=
  octets.flatMap fun b => [Nat.digitChar (b / 16), Nat.digitChar (b % 16)]

def rotateLeft (n : Nat) (x : UInt32) : UInt32 :=
  (x <<< UInt32.ofNat n) ||| (x >>> UInt32.ofNat (32 - n))

/-! Four words -/

/-- The constants are those of the sine at whole numbers. -/
def sines : Array UInt32 :=
  #[0xd76aa478, 0xe8c7b756, 0x242070db, 0xc1bdceee, 0xf57c0faf, 0x4787c62a, 0xa8304613,
    0xfd469501, 0x698098d8, 0x8b44f7af, 0xffff5bb1, 0x895cd7be, 0x6b901122, 0xfd987193,
    0xa679438e, 0x49b40821, 0xf61e2562, 0xc040b340, 0x265e5a51, 0xe9b6c7aa, 0xd62f105d,
    0x02441453, 0xd8a1e681, 0xe7d3fbc8, 0x21e1cde6, 0xc33707d6, 0xf4d50d87, 0x455a14ed,
    0xa9e3e905, 0xfcefa3f8, 0x676f02d9, 0x8d2a4c8a, 0xfffa3942, 0x8771f681, 0x6d9d6122,
    0xfde5380c, 0xa4beea44, 0x4bdecfa9, 0xf6bb4b60, 0xbebfbc70, 0x289b7ec6, 0xeaa127fa,
    0xd4ef3085, 0x04881d05, 0xd9d4d039, 0xe6db99e5, 0x1fa27cf8, 0xc4ac5665, 0xf4292244,
    0x432aff97, 0xab9423a7, 0xfc93a039, 0x655b59c3, 0x8f0ccc92, 0xffeff47d, 0x85845dd1,
    0x6fa87e4f, 0xfe2ce6e0, 0xa3014314, 0x4e0811a1, 0xf7537e82, 0xbd3af235, 0x2ad7d2bb,
    0xeb86d391]

def turns : Array Nat := #[7, 12, 17, 22, 5, 9, 14, 20, 4, 11, 16, 23, 6, 10, 15, 21]

structure Four where
  a : UInt32
  b : UInt32
  c : UInt32
  d : UInt32

def Four.mix (words : Array UInt32) (s : Four) (i : Nat) : Four :=
  let (f, g) :=
    if i < 16 then ((s.b &&& s.c) ||| (~~~s.b &&& s.d), i)
    else if i < 32 then ((s.d &&& s.b) ||| (~~~s.d &&& s.c), (5 * i + 1) % 16)
    else if i < 48 then (s.b ^^^ s.c ^^^ s.d, (3 * i + 5) % 16)
    else (s.c ^^^ (s.b ||| ~~~s.d), (7 * i) % 16)
  let sum := s.a + f + sines.getD i 0 + words.getD g 0
  ⟨s.d, s.b + rotateLeft (turns.getD (4 * (i / 16) + i % 4) 0) sum, s.b, s.c⟩

def md5 (octets : List Nat) : List Nat :=
  let start : Four := ⟨0x67452301, 0xefcdab89, 0x98badcfe, 0x10325476⟩
  let s := (blocks 64 false octets).foldl (fun s block =>
    let words := ((chunks 4 17 block).map fun w => UInt32.ofNat (littleWord w)).toArray
    let t := (List.range 64).foldl (Four.mix words) s
    ⟨s.a + t.a, s.b + t.b, s.c + t.c, s.d + t.d⟩) start
  [s.a, s.b, s.c, s.d].flatMap fun w => littleOctets 4 w.toNat

/-! Five words -/

structure Five where
  a : UInt32
  b : UInt32
  c : UInt32
  d : UInt32
  e : UInt32

/-- More words from those of a block. -/
def widened (words : Array UInt32) : Array UInt32 :=
  (List.range 64).foldl (fun w i =>
    w.push (rotateLeft 1 (w.getD (i + 13) 0 ^^^ w.getD (i + 8) 0 ^^^ w.getD (i + 2) 0 ^^^
      w.getD i 0))) words

def Five.mix (words : Array UInt32) (s : Five) (i : Nat) : Five :=
  let (f, k) : UInt32 × UInt32 :=
    if i < 20 then ((s.b &&& s.c) ||| (~~~s.b &&& s.d), 0x5a827999)
    else if i < 40 then (s.b ^^^ s.c ^^^ s.d, 0x6ed9eba1)
    else if i < 60 then ((s.b &&& s.c) ||| (s.b &&& s.d) ||| (s.c &&& s.d), 0x8f1bbcdc)
    else (s.b ^^^ s.c ^^^ s.d, 0xca62c1d6)
  ⟨rotateLeft 5 s.a + f + s.e + k + words.getD i 0, s.a, rotateLeft 30 s.b, s.c, s.d⟩

def sha1 (octets : List Nat) : List Nat :=
  let start : Five := ⟨0x67452301, 0xefcdab89, 0x98badcfe, 0x10325476, 0xc3d2e1f0⟩
  let s := (blocks 64 true octets).foldl (fun s block =>
    let words := widened ((chunks 4 17 block).map fun w => UInt32.ofNat (bigWord w)).toArray
    let t := (List.range 80).foldl (Five.mix words) s
    ⟨s.a + t.a, s.b + t.b, s.c + t.c, s.d + t.d, s.e + t.e⟩) start
  [s.a, s.b, s.c, s.d, s.e].flatMap fun w => bigOctets 4 w.toNat

/-! Eight words -/

/-- Bits behind the point of roots of the first prime numbers. -/
def roots : Array UInt64 :=
  #[0x428a2f98d728ae22, 0x7137449123ef65cd, 0xb5c0fbcfec4d3b2f, 0xe9b5dba58189dbbc,
    0x3956c25bf348b538, 0x59f111f1b605d019, 0x923f82a4af194f9b, 0xab1c5ed5da6d8118,
    0xd807aa98a3030242, 0x12835b0145706fbe, 0x243185be4ee4b28c, 0x550c7dc3d5ffb4e2,
    0x72be5d74f27b896f, 0x80deb1fe3b1696b1, 0x9bdc06a725c71235, 0xc19bf174cf692694,
    0xe49b69c19ef14ad2, 0xefbe4786384f25e3, 0x0fc19dc68b8cd5b5, 0x240ca1cc77ac9c65,
    0x2de92c6f592b0275, 0x4a7484aa6ea6e483, 0x5cb0a9dcbd41fbd4, 0x76f988da831153b5,
    0x983e5152ee66dfab, 0xa831c66d2db43210, 0xb00327c898fb213f, 0xbf597fc7beef0ee4,
    0xc6e00bf33da88fc2, 0xd5a79147930aa725, 0x06ca6351e003826f, 0x142929670a0e6e70,
    0x27b70a8546d22ffc, 0x2e1b21385c26c926, 0x4d2c6dfc5ac42aed, 0x53380d139d95b3df,
    0x650a73548baf63de, 0x766a0abb3c77b2a8, 0x81c2c92e47edaee6, 0x92722c851482353b,
    0xa2bfe8a14cf10364, 0xa81a664bbc423001, 0xc24b8b70d0f89791, 0xc76c51a30654be30,
    0xd192e819d6ef5218, 0xd69906245565a910, 0xf40e35855771202a, 0x106aa07032bbd1b8,
    0x19a4c116b8d2d0c8, 0x1e376c085141ab53, 0x2748774cdf8eeb99, 0x34b0bcb5e19b48a8,
    0x391c0cb3c5c95a63, 0x4ed8aa4ae3418acb, 0x5b9cca4f7763e373, 0x682e6ff3d6b2b8a3,
    0x748f82ee5defb2fc, 0x78a5636f43172f60, 0x84c87814a1f0ab72, 0x8cc702081a6439ec,
    0x90befffa23631e28, 0xa4506cebde82bde9, 0xbef9a3f7b2c67915, 0xc67178f2e372532b,
    0xca273eceea26619c, 0xd186b8c721c0c207, 0xeada7dd6cde0eb1e, 0xf57d4f7fee6ed178,
    0x06f067aa72176fba, 0x0a637dc5a2c898a6, 0x113f9804bef90dae, 0x1b710b35131c471b,
    0x28db77f523047d84, 0x32caab7b40c72493, 0x3c9ebe0a15c9bebc, 0x431d67c49c100d4c,
    0x4cc5d4becb3e42b6, 0x597f299cfc657e2a, 0x5fcb6fab3ad6faec, 0x6c44198c4a475817]

/-- How words of a width are mixed. -/
structure Wide where
  bits : Nat
  rounds : Nat
  sumA : List Nat
  sumE : List Nat
  early : List Nat
  late : List Nat

/-- Of the early and the late mixtures the last number is a shift, not a rotation. -/
def narrow : Wide := ⟨32, 64, [2, 13, 22], [6, 11, 25], [7, 18, 3], [17, 19, 10]⟩

def broad : Wide := ⟨64, 80, [28, 34, 39], [14, 18, 41], [1, 8, 7], [19, 61, 6]⟩

namespace Wide

def rotate (k : Wide) (x n : Nat) : Nat :=
  (x >>> n ||| x <<< (k.bits - n)) % 2 ^ k.bits

def sum (k : Wide) (ns : List Nat) (x : Nat) : Nat :=
  ns.foldl (fun s n => s ^^^ k.rotate x n) 0

def mixture (k : Wide) (ns : List Nat) (x : Nat) : Nat :=
  match ns with
  | [m, n, p] => k.rotate x m ^^^ k.rotate x n ^^^ x >>> p
  | _ => 0

def constant (k : Wide) (i : Nat) : Nat :=
  let c := (roots.getD i 0).toNat
  if k.bits = 32 then c / 2 ^ 32 else c

def widened (k : Wide) (words : Array Nat) : Array Nat :=
  (List.range (k.rounds - 16)).foldl (fun w i =>
    w.push ((k.mixture k.late (w.getD (i + 14) 0) + w.getD (i + 9) 0 +
      k.mixture k.early (w.getD (i + 1) 0) + w.getD i 0) % 2 ^ k.bits)) words

def mix (k : Wide) (words : Array Nat) (s : List Nat) (i : Nat) : List Nat :=
  match s with
  | [a, b, c, d, e, f, g, h] =>
    let all := 2 ^ k.bits - 1
    let chosen := (e &&& f) ^^^ ((all - e) &&& g)
    let major := (a &&& b) ^^^ (a &&& c) ^^^ (b &&& c)
    let t := h + k.sum k.sumE e + chosen + k.constant i + words.getD i 0
    let u := k.sum k.sumA a + major
    [(t + u) % 2 ^ k.bits, a, b, c, (d + t) % 2 ^ k.bits, e, f, g]
  | s => s

def run (k : Wide) (start : List Nat) (count : Nat) (octets : List Nat) : List Nat :=
  let size := k.bits / 8
  let s := (blocks (16 * size) true octets).foldl (fun s block =>
    let words := k.widened ((chunks size 17 block).map bigWord).toArray
    let t := (List.range k.rounds).foldl (k.mix words) s
    (s.zip t).map fun (x, y) => (x + y) % 2 ^ k.bits) start
  (s.flatMap (bigOctets size)).take count

end Wide

def sha224 (octets : List Nat) : List Nat :=
  narrow.run [0xc1059ed8, 0x367cd507, 0x3070dd17, 0xf70e5939, 0xffc00b31, 0x68581511,
    0x64f98fa7, 0xbefa4fa4] 28 octets

def sha256 (octets : List Nat) : List Nat :=
  narrow.run [0x6a09e667, 0xbb67ae85, 0x3c6ef372, 0xa54ff53a, 0x510e527f, 0x9b05688c,
    0x1f83d9ab, 0x5be0cd19] 32 octets

def sha384 (octets : List Nat) : List Nat :=
  broad.run [0xcbbb9d5dc1059ed8, 0x629a292a367cd507, 0x9159015a3070dd17, 0x152fecd8f70e5939,
    0x67332667ffc00b31, 0x8eb44a8768581511, 0xdb0c2e0d64f98fa7, 0x47b5481dbefa4fa4] 48 octets

def sha512 (octets : List Nat) : List Nat :=
  broad.run [0x6a09e667f3bcc908, 0xbb67ae8584caa73b, 0x3c6ef372fe94f82b, 0xa54ff53a5f1d36f1,
    0x510e527fade682d1, 0x9b05688c2b3e6c1f, 0x1f83d9abfb41bd6b, 0x5be0cd19137e2179] 64 octets

/-! Checksums -/

/-- Eight steps of the division by the polynomial. -/
def stepped (crc : UInt32) (b : Nat) : UInt32 :=
  (List.range 8).foldl (fun (c : UInt32) _ =>
    if c &&& 0x80000000 ≠ 0 then (c <<< 1) ^^^ 0x04c11db7 else c <<< 1)
    (crc ^^^ (UInt32.ofNat b <<< 24))

/-- The octets of a length, the least first, without zeros at the end. -/
def lengthOctets : Nat → Nat → List Nat
  | 0, _ => []
  | fuel + 1, n => if n = 0 then [] else n % 256 :: lengthOctets fuel (n / 256)

/-- The checksum of a cyclic code over octets and their number. -/
def cyclic (octets : List Nat) : Nat :=
  (~~~((octets ++ lengthOctets 16 octets.length).foldl stepped 0)).toNat

/-- The sum of octets, rotated before each. -/
def rotating (octets : List Nat) : Nat :=
  octets.foldl (fun s b => ((s / 2 + s % 2 * 32768) + b) % 65536) 0

/-- The sum of octets, with what does not fit into sixteen bits added again. -/
def plain (octets : List Nat) : Nat :=
  let s := octets.sum % 2 ^ 32
  let r := s % 65536 + s / 65536
  r % 65536 + r / 65536

end RemoteInterpreter.Shell.Tool.Digest
