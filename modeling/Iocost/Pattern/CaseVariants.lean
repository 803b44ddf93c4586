import Iocost.Text.Ranges

/-!
Characters that differ in case only, by simple case folding in Unicode 16.
-/

set_option maxRecDepth 20000

namespace Iocost.Pattern

/-- Pairs of characters of equal folded case. A row `(low, high, step, distance)` pairs each of the
characters `low`, `low + step`, … up to `high` with the one that is `distance` further on. Any two
characters of equal folded case are such a pair. -/
def caseRows : List (Nat × Nat × Nat × Nat) :=
  [(0x41, 0x5a, 0x1, 0x20), (0x4b, 0x4b, 0x1, 0x20df), (0x53, 0x53, 0x1, 0x12c),
  (0x6b, 0x6b, 0x1, 0x20bf), (0x73, 0x73, 0x1, 0x10c), (0xb5, 0xb5, 0x1, 0x2e7),
  (0xb5, 0xb5, 0x1, 0x307), (0xc0, 0xd6, 0x1, 0x20), (0xc5, 0xc5, 0x1, 0x2066),
  (0xd8, 0xde, 0x1, 0x20), (0xdf, 0xdf, 0x1, 0x1dbf), (0xe5, 0xe5, 0x1, 0x2046),
  (0xff, 0xff, 0x1, 0x79), (0x100, 0x12e, 0x2, 0x1), (0x132, 0x136, 0x2, 0x1),
  (0x139, 0x147, 0x2, 0x1), (0x14a, 0x176, 0x2, 0x1), (0x179, 0x17d, 0x2, 0x1),
  (0x180, 0x180, 0x1, 0xc3), (0x181, 0x181, 0x1, 0xd2), (0x182, 0x184, 0x2, 0x1),
  (0x186, 0x186, 0x1, 0xce), (0x187, 0x187, 0x1, 0x1), (0x189, 0x18a, 0x1, 0xcd),
  (0x18b, 0x18b, 0x1, 0x1), (0x18e, 0x18e, 0x1, 0x4f), (0x18f, 0x18f, 0x1, 0xca),
  (0x190, 0x190, 0x1, 0xcb), (0x191, 0x191, 0x1, 0x1), (0x193, 0x193, 0x1, 0xcd),
  (0x194, 0x194, 0x1, 0xcf), (0x195, 0x195, 0x1, 0x61), (0x196, 0x196, 0x1, 0xd3),
  (0x197, 0x197, 0x1, 0xd1), (0x198, 0x198, 0x1, 0x1), (0x19a, 0x19a, 0x1, 0xa3),
  (0x19b, 0x19b, 0x1, 0xa641), (0x19c, 0x19c, 0x1, 0xd3), (0x19d, 0x19d, 0x1, 0xd5),
  (0x19e, 0x19e, 0x1, 0x82), (0x19f, 0x19f, 0x1, 0xd6), (0x1a0, 0x1a4, 0x2, 0x1),
  (0x1a6, 0x1a6, 0x1, 0xda), (0x1a7, 0x1a7, 0x1, 0x1), (0x1a9, 0x1a9, 0x1, 0xda),
  (0x1ac, 0x1ac, 0x1, 0x1), (0x1ae, 0x1ae, 0x1, 0xda), (0x1af, 0x1af, 0x1, 0x1),
  (0x1b1, 0x1b2, 0x1, 0xd9), (0x1b3, 0x1b5, 0x2, 0x1), (0x1b7, 0x1b7, 0x1, 0xdb),
  (0x1b8, 0x1b8, 0x1, 0x1), (0x1bc, 0x1bc, 0x1, 0x1), (0x1bf, 0x1bf, 0x1, 0x38),
  (0x1c4, 0x1c4, 0x1, 0x2), (0x1c4, 0x1c5, 0x1, 0x1), (0x1c7, 0x1c7, 0x1, 0x2),
  (0x1c7, 0x1c8, 0x1, 0x1), (0x1ca, 0x1ca, 0x1, 0x2), (0x1ca, 0x1cb, 0x1, 0x1),
  (0x1cd, 0x1db, 0x2, 0x1), (0x1de, 0x1ee, 0x2, 0x1), (0x1f1, 0x1f1, 0x1, 0x2),
  (0x1f1, 0x1f2, 0x1, 0x1), (0x1f4, 0x1f4, 0x1, 0x1), (0x1f8, 0x21e, 0x2, 0x1),
  (0x222, 0x232, 0x2, 0x1), (0x23a, 0x23a, 0x1, 0x2a2b), (0x23b, 0x23b, 0x1, 0x1),
  (0x23e, 0x23e, 0x1, 0x2a28), (0x23f, 0x240, 0x1, 0x2a3f), (0x241, 0x241, 0x1, 0x1),
  (0x244, 0x244, 0x1, 0x45), (0x245, 0x245, 0x1, 0x47), (0x246, 0x24e, 0x2, 0x1),
  (0x250, 0x250, 0x1, 0x2a1f), (0x251, 0x251, 0x1, 0x2a1c), (0x252, 0x252, 0x1, 0x2a1e),
  (0x25c, 0x25c, 0x1, 0xa54f), (0x261, 0x261, 0x1, 0xa54b), (0x264, 0x264, 0x1, 0xa567),
  (0x265, 0x265, 0x1, 0xa528), (0x266, 0x266, 0x1, 0xa544), (0x26a, 0x26a, 0x1, 0xa544),
  (0x26b, 0x26b, 0x1, 0x29f7), (0x26c, 0x26c, 0x1, 0xa541), (0x271, 0x271, 0x1, 0x29fd),
  (0x27d, 0x27d, 0x1, 0x29e7), (0x282, 0x282, 0x1, 0xa543), (0x287, 0x287, 0x1, 0xa52a),
  (0x29d, 0x29d, 0x1, 0xa515), (0x29e, 0x29e, 0x1, 0xa512), (0x345, 0x345, 0x1, 0x54),
  (0x345, 0x345, 0x1, 0x74), (0x345, 0x345, 0x1, 0x1c79), (0x370, 0x372, 0x2, 0x1),
  (0x376, 0x376, 0x1, 0x1), (0x37b, 0x37d, 0x1, 0x82), (0x37f, 0x37f, 0x1, 0x74),
  (0x386, 0x386, 0x1, 0x26), (0x388, 0x38a, 0x1, 0x25), (0x38c, 0x38c, 0x1, 0x40),
  (0x38e, 0x38f, 0x1, 0x3f), (0x390, 0x390, 0x1, 0x1c43), (0x391, 0x3a1, 0x1, 0x20),
  (0x392, 0x392, 0x1, 0x3e), (0x395, 0x395, 0x1, 0x60), (0x398, 0x398, 0x1, 0x39),
  (0x398, 0x398, 0x1, 0x5c), (0x399, 0x399, 0x1, 0x1c25), (0x39a, 0x39a, 0x1, 0x56),
  (0x3a0, 0x3a0, 0x1, 0x36), (0x3a1, 0x3a1, 0x1, 0x50), (0x3a3, 0x3a3, 0x1, 0x1f),
  (0x3a3, 0x3ab, 0x1, 0x20), (0x3a6, 0x3a6, 0x1, 0x2f), (0x3a9, 0x3a9, 0x1, 0x1d7d),
  (0x3b0, 0x3b0, 0x1, 0x1c33), (0x3b2, 0x3b2, 0x1, 0x1e), (0x3b5, 0x3b5, 0x1, 0x40),
  (0x3b8, 0x3b8, 0x1, 0x19), (0x3b8, 0x3b8, 0x1, 0x3c), (0x3b9, 0x3b9, 0x1, 0x1c05),
  (0x3ba, 0x3ba, 0x1, 0x36), (0x3c0, 0x3c0, 0x1, 0x16), (0x3c1, 0x3c1, 0x1, 0x30),
  (0x3c2, 0x3c2, 0x1, 0x1), (0x3c6, 0x3c6, 0x1, 0xf), (0x3c9, 0x3c9, 0x1, 0x1d5d),
  (0x3cf, 0x3cf, 0x1, 0x8), (0x3d1, 0x3d1, 0x1, 0x23), (0x3d8, 0x3ee, 0x2, 0x1),
  (0x3f2, 0x3f2, 0x1, 0x7), (0x3f7, 0x3f7, 0x1, 0x1), (0x3fa, 0x3fa, 0x1, 0x1),
  (0x400, 0x40f, 0x1, 0x50), (0x410, 0x42f, 0x1, 0x20), (0x412, 0x412, 0x1, 0x186e),
  (0x414, 0x414, 0x1, 0x186d), (0x41e, 0x41e, 0x1, 0x1864), (0x421, 0x422, 0x1, 0x1862),
  (0x422, 0x422, 0x1, 0x1863), (0x42a, 0x42a, 0x1, 0x185c), (0x432, 0x432, 0x1, 0x184e),
  (0x434, 0x434, 0x1, 0x184d), (0x43e, 0x43e, 0x1, 0x1844), (0x441, 0x442, 0x1, 0x1842),
  (0x442, 0x442, 0x1, 0x1843), (0x44a, 0x44a, 0x1, 0x183c), (0x460, 0x480, 0x2, 0x1),
  (0x462, 0x462, 0x1, 0x1825), (0x463, 0x463, 0x1, 0x1824), (0x48a, 0x4be, 0x2, 0x1),
  (0x4c0, 0x4c0, 0x1, 0xf), (0x4c1, 0x4cd, 0x2, 0x1), (0x4d0, 0x52e, 0x2, 0x1),
  (0x531, 0x556, 0x1, 0x30), (0x10a0, 0x10c5, 0x1, 0x1c60), (0x10c7, 0x10c7, 0x1, 0x1c60),
  (0x10cd, 0x10cd, 0x1, 0x1c60), (0x10d0, 0x10fa, 0x1, 0xbc0), (0x10fd, 0x10ff, 0x1, 0xbc0),
  (0x13a0, 0x13ef, 0x1, 0x97d0), (0x13f0, 0x13f5, 0x1, 0x8), (0x1c84, 0x1c84, 0x1, 0x1),
  (0x1c88, 0x1c88, 0x1, 0x89c2), (0x1c88, 0x1c88, 0x1, 0x89c3), (0x1c89, 0x1c89, 0x1, 0x1),
  (0x1d79, 0x1d79, 0x1, 0x8a04), (0x1d7d, 0x1d7d, 0x1, 0xee6), (0x1d8e, 0x1d8e, 0x1, 0x8a38),
  (0x1e00, 0x1e94, 0x2, 0x1), (0x1e60, 0x1e60, 0x1, 0x3b), (0x1e61, 0x1e61, 0x1, 0x3a),
  (0x1ea0, 0x1efe, 0x2, 0x1), (0x1f00, 0x1f07, 0x1, 0x8), (0x1f10, 0x1f15, 0x1, 0x8),
  (0x1f20, 0x1f27, 0x1, 0x8), (0x1f30, 0x1f37, 0x1, 0x8), (0x1f40, 0x1f45, 0x1, 0x8),
  (0x1f51, 0x1f57, 0x2, 0x8), (0x1f60, 0x1f67, 0x1, 0x8), (0x1f70, 0x1f71, 0x1, 0x4a),
  (0x1f72, 0x1f75, 0x1, 0x56), (0x1f76, 0x1f77, 0x1, 0x64), (0x1f78, 0x1f79, 0x1, 0x80),
  (0x1f7a, 0x1f7b, 0x1, 0x70), (0x1f7c, 0x1f7d, 0x1, 0x7e), (0x1f80, 0x1f87, 0x1, 0x8),
  (0x1f90, 0x1f97, 0x1, 0x8), (0x1fa0, 0x1fa7, 0x1, 0x8), (0x1fb0, 0x1fb1, 0x1, 0x8),
  (0x1fb3, 0x1fb3, 0x1, 0x9), (0x1fc3, 0x1fc3, 0x1, 0x9), (0x1fd0, 0x1fd1, 0x1, 0x8),
  (0x1fe0, 0x1fe1, 0x1, 0x8), (0x1fe5, 0x1fe5, 0x1, 0x7), (0x1ff3, 0x1ff3, 0x1, 0x9),
  (0x2132, 0x2132, 0x1, 0x1c), (0x2160, 0x216f, 0x1, 0x10), (0x2183, 0x2183, 0x1, 0x1),
  (0x24b6, 0x24cf, 0x1, 0x1a), (0x2c00, 0x2c2f, 0x1, 0x30), (0x2c60, 0x2c60, 0x1, 0x1),
  (0x2c67, 0x2c6b, 0x2, 0x1), (0x2c72, 0x2c72, 0x1, 0x1), (0x2c75, 0x2c75, 0x1, 0x1),
  (0x2c80, 0x2ce2, 0x2, 0x1), (0x2ceb, 0x2ced, 0x2, 0x1), (0x2cf2, 0x2cf2, 0x1, 0x1),
  (0xa640, 0xa66c, 0x2, 0x1), (0xa680, 0xa69a, 0x2, 0x1), (0xa722, 0xa72e, 0x2, 0x1),
  (0xa732, 0xa76e, 0x2, 0x1), (0xa779, 0xa77b, 0x2, 0x1), (0xa77e, 0xa786, 0x2, 0x1),
  (0xa78b, 0xa78b, 0x1, 0x1), (0xa790, 0xa792, 0x2, 0x1), (0xa794, 0xa794, 0x1, 0x30),
  (0xa796, 0xa7a8, 0x2, 0x1), (0xa7b3, 0xa7b3, 0x1, 0x3a0), (0xa7b4, 0xa7c2, 0x2, 0x1),
  (0xa7c7, 0xa7c9, 0x2, 0x1), (0xa7cc, 0xa7d0, 0x4, 0x1), (0xa7d6, 0xa7da, 0x2, 0x1),
  (0xa7f5, 0xa7f5, 0x1, 0x1), (0xfb05, 0xfb05, 0x1, 0x1), (0xff21, 0xff3a, 0x1, 0x20),
  (0x10400, 0x10427, 0x1, 0x28), (0x104b0, 0x104d3, 0x1, 0x28),
  (0x10570, 0x10594, 0x2, 0x27), (0x10571, 0x10579, 0x2, 0x27),
  (0x1057d, 0x10589, 0x2, 0x27), (0x1058d, 0x10591, 0x2, 0x27), (0x10595, 0x10595, 0x1, 0x27),
  (0x10c80, 0x10cb2, 0x1, 0x40), (0x10d50, 0x10d65, 0x1, 0x20), (0x118a0, 0x118bf, 0x1, 0x20),
  (0x16e40, 0x16e5f, 0x1, 0x20), (0x1e900, 0x1e921, 0x1, 0x22)]

/-- The row pairs the number with one further on. -/
def hasLater (row : Nat × Nat × Nat × Nat) (n : Nat) : Bool :=
  let (low, high, step, _) := row
  decide (low ≤ n) && decide (n ≤ high) && (n - low) % step == 0

/-- The characters other than `c` of the same folded case. -/
def caseVariants (c : Char) : List Char :=
  caseRows.flatMap fun row =>
    let distance := row.2.2.2
    (if hasLater row c.toNat then [Char.ofNat (c.toNat + distance)] else []) ++
      if decide (distance ≤ c.toNat) && hasLater row (c.toNat - distance) then
        [Char.ofNat (c.toNat - distance)]
      else
        []

/-- The pairs of numbers that the rows pair, the smaller one first. -/
def casePairs : List (Nat × Nat) :=
  caseRows.flatMap fun (low, high, step, distance) =>
    (List.range ((high - low) / step + 1)).map fun i => (low + i * step, low + i * step + distance)

/-- The character that an ASCII letter becomes in the other case. -/
def asciiVariants (c : Char) : List Char :=
  if c.isUpper then [Char.ofNat (c.toNat + 32)]
  else if c.isLower then [Char.ofNat (c.toNat - 32)]
  else []
/-- The pairs of numbers of ASCII letters, the capital first. -/
def asciiCasePairs : List (Nat × Nat) := (List.range 26).map fun i => (65 + i, 97 + i)

/-- The numbers that are paired with one in the ranges, as ranges. -/
def pairedRanges (pairs : List (Nat × Nat)) (ranges : List (Nat × Nat)) : List (Nat × Nat) :=
  pairs.flatMap fun (a, b) =>
    (if Text.inRanges ranges a then [(b, b)] else []) ++
      if Text.inRanges ranges b then [(a, a)] else []

end Iocost.Pattern
