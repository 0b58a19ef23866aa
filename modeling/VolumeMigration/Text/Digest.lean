/-!
# The MD5 digest

The digest of a byte string is 16 bytes (`length_md5`), written as 32 lower-case
hexadecimal digits. It serves as a short name, not as a safeguard.
-/

namespace VolumeMigration.Text

/-- The four words that the digest is computed in. -/
structure DigestState where
  a : UInt32
  b : UInt32
  c : UInt32
  d : UInt32
deriving DecidableEq, Repr

namespace DigestState

def initial : DigestState := ⟨0x67452301, 0xefcdab89, 0x98badcfe, 0x10325476⟩

/-- The whole parts of 2^32 |sin i|, one for each step of a block. -/
def constants : List UInt32 :=
  [0xd76aa478, 0xe8c7b756, 0x242070db, 0xc1bdceee, 0xf57c0faf, 0x4787c62a, 0xa8304613, 0xfd469501,
    0x698098d8, 0x8b44f7af, 0xffff5bb1, 0x895cd7be, 0x6b901122, 0xfd987193, 0xa679438e, 0x49b40821,
    0xf61e2562, 0xc040b340, 0x265e5a51, 0xe9b6c7aa, 0xd62f105d, 0x02441453, 0xd8a1e681, 0xe7d3fbc8,
    0x21e1cde6, 0xc33707d6, 0xf4d50d87, 0x455a14ed, 0xa9e3e905, 0xfcefa3f8, 0x676f02d9, 0x8d2a4c8a,
    0xfffa3942, 0x8771f681, 0x6d9d6122, 0xfde5380c, 0xa4beea44, 0x4bdecfa9, 0xf6bb4b60, 0xbebfbc70,
    0x289b7ec6, 0xeaa127fa, 0xd4ef3085, 0x04881d05, 0xd9d4d039, 0xe6db99e5, 0x1fa27cf8, 0xc4ac5665,
    0xf4292244, 0x432aff97, 0xab9423a7, 0xfc93a039, 0x655b59c3, 0x8f0ccc92, 0xffeff47d, 0x85845dd1,
    0x6fa87e4f, 0xfe2ce6e0, 0xa3014314, 0x4e0811a1, 0xf7537e82, 0xbd3af235, 0x2ad7d2bb, 0xeb86d391]

/-- How far each step rotates. -/
def rotations : List UInt32 :=
  let round (r : List UInt32) : List UInt32 := r ++ r ++ r ++ r
  round [7, 12, 17, 22] ++ round [5, 9, 14, 20] ++ round [4, 11, 16, 23] ++ round [6, 10, 15, 21]

def rotateLeft (x n : UInt32) : UInt32 := (x <<< n) ||| (x >>> (32 - n))

/-- One of the 64 steps that mix a block into the state. -/
def step (words : List UInt32) (s : DigestState) (i : Nat) (constant rotation : UInt32) : DigestState :=
  let (f, g) :=
    if i < 16 then ((s.b &&& s.c) ||| (~~~s.b &&& s.d), i)
    else if i < 32 then ((s.d &&& s.b) ||| (~~~s.d &&& s.c), (5 * i + 1) % 16)
    else if i < 48 then (s.b ^^^ s.c ^^^ s.d, (3 * i + 5) % 16)
    else (s.c ^^^ (s.b ||| ~~~s.d), (7 * i) % 16)
  let mixed := f + s.a + constant + words.getD g 0
  { a := s.d, b := s.b + rotateLeft mixed rotation, c := s.b, d := s.c }

/-- The state after a block of 16 words. -/
def absorb (s : DigestState) (words : List UInt32) : DigestState :=
  let t := ((constants.zip rotations).zipIdx).foldl (fun t p => step words t p.2 p.1.1 p.1.2) s
  ⟨s.a + t.a, s.b + t.b, s.c + t.c, s.d + t.d⟩

end DigestState

/-- The number that bytes spell, the least significant first. -/
def littleEndian : List UInt8 → Nat
  | [] => 0
  | b :: r => b.toNat + 256 * littleEndian r

/-- The `k` least significant bytes of a number, the least significant first. -/
def bytesOfNat : Nat → Nat → List UInt8
  | 0, _ => []
  | k + 1, n => UInt8.ofNat (n % 256) :: bytesOfNat k (n / 256)

theorem length_bytesOfNat (k n : Nat) : (bytesOfNat k n).length = k := by
  induction k generalizing n with
  | zero => rfl
  | succ k ih => simp [bytesOfNat, ih]

/-- The message, a one bit, zeros up to the next multiple of 64 bytes, and its length in bits. -/
def padMessage (bytes : List UInt8) : List UInt8 :=
  let zeros := (119 - bytes.length % 64) % 64
  bytes ++ 0x80 :: List.replicate zeros 0 ++ bytesOfNat 8 (8 * bytes.length)

/-- The first `n` groups of `k` elements. -/
def groups {α : Type} (k : Nat) : Nat → List α → List (List α)
  | 0, _ => []
  | n + 1, l => l.take k :: groups k n (l.drop k)

/-- The 16 words of a block of 64 bytes. -/
def wordsOfBlock (block : List UInt8) : List UInt32 :=
  (groups 4 16 block).map fun g => UInt32.ofNat (littleEndian g)

def md5 (bytes : List UInt8) : List UInt8 :=
  let padded := padMessage bytes
  let s := ((groups 64 (padded.length / 64) padded).map wordsOfBlock).foldl DigestState.absorb .initial
  [s.a, s.b, s.c, s.d].flatMap fun w => bytesOfNat 4 w.toNat

theorem length_md5 (bytes : List UInt8) : (md5 bytes).length = 16 := by
  simp [md5, length_bytesOfNat]

def hexDigit (n : Nat) : Char := if n < 10 then Char.ofNat (48 + n) else Char.ofNat (87 + n)

/-- Two lower-case hexadecimal digits for each byte. -/
def hexOfBytes : List UInt8 → List Char
  | [] => []
  | b :: r => hexDigit (b.toNat / 16) :: hexDigit (b.toNat % 16) :: hexOfBytes r

theorem length_hexOfBytes (bytes : List UInt8) : (hexOfBytes bytes).length = 2 * bytes.length := by
  induction bytes with
  | nil => rfl
  | cons b r ih => simp only [hexOfBytes, List.length_cons, ih]; omega

/-- The UTF-8 bytes of a text. -/
def utf8Bytes (s : String) : List UInt8 := s.toUTF8.toList

/-- The digest of a text in hexadecimal. -/
def md5Hex (s : String) : String := String.ofList (hexOfBytes (md5 (utf8Bytes s)))

end VolumeMigration.Text
