import PageHarvest.Text.Basic
import PageHarvest.Text.Marks

/-!
# Directions of writing in domain names

In a domain name that holds characters written from right to left each label must be written in one direction, so that
no two names look the same. Marks take the direction of what is in front of them.
-/

namespace PageHarvest.Url.Domain

/-- How a character takes part in the direction of a text. -/
inductive Direction where
  | left
  | right
  | digit
  | arabicDigit
  | neutral
  | mark
  deriving DecidableEq, Repr

/-- The first and the last code point of ranges, and the direction of the characters in them. Marks are not listed; all
other characters are written from left to right. -/
def directions : Array (Nat × Nat × Direction) := #[
  (0x21, 0x2f, .neutral), (0x30, 0x39, .digit), (0x3a, 0x40, .neutral), (0x5b, 0x60, .neutral),
  (0x7b, 0x7e, .neutral), (0xa1, 0xa7, .neutral), (0xa9, 0xa9, .neutral), (0xab, 0xac, .neutral),
  (0xae, 0xae, .neutral), (0xb0, 0xb1, .neutral), (0xb6, 0xb7, .neutral), (0xbb, 0xbb, .neutral),
  (0xbf, 0xbf, .neutral), (0xd7, 0xd7, .neutral), (0xf7, 0xf7, .neutral), (0x2b9, 0x2ba, .neutral),
  (0x2c2, 0x2cf, .neutral), (0x2d2, 0x2d7, .neutral), (0x2de, 0x2df, .neutral), (0x2e5, 0x2ed, .neutral),
  (0x2ef, 0x2ff, .neutral), (0x375, 0x375, .neutral), (0x3f6, 0x3f6, .neutral), (0x58a, 0x58a, .neutral),
  (0x58d, 0x58f, .neutral), (0x5be, 0x5be, .right), (0x5c0, 0x5c0, .right), (0x5c3, 0x5c3, .right),
  (0x5c6, 0x5c6, .right), (0x5d0, 0x5ea, .right), (0x5ef, 0x5f4, .right), (0x606, 0x607, .neutral),
  (0x608, 0x608, .right), (0x609, 0x60a, .neutral), (0x60b, 0x60b, .right), (0x60c, 0x60c, .neutral),
  (0x60d, 0x60d, .right), (0x60e, 0x60f, .neutral), (0x61b, 0x61b, .right), (0x61d, 0x64a, .right),
  (0x660, 0x669, .arabicDigit), (0x66a, 0x66a, .neutral), (0x66b, 0x66c, .arabicDigit), (0x66d, 0x66f, .right),
  (0x671, 0x674, .right), (0x679, 0x6d5, .right), (0x6de, 0x6de, .neutral), (0x6e5, 0x6e6, .right),
  (0x6e9, 0x6e9, .neutral), (0x6ee, 0x6ef, .right), (0x6f0, 0x6f9, .digit), (0x6fa, 0x70d, .right),
  (0x710, 0x710, .right), (0x712, 0x72f, .right), (0x74d, 0x7a5, .right), (0x7b1, 0x7b1, .right),
  (0x7c0, 0x7ea, .right), (0x7f4, 0x7f5, .right), (0x7f6, 0x7f9, .neutral), (0x7fa, 0x7fa, .right),
  (0x7fe, 0x815, .right), (0x81a, 0x81a, .right), (0x824, 0x824, .right), (0x828, 0x828, .right),
  (0x830, 0x83e, .right), (0x840, 0x858, .right), (0x85e, 0x85e, .right), (0x860, 0x86a, .right),
  (0x870, 0x88f, .right), (0x8a0, 0x8c9, .right), (0x9f2, 0x9f3, .neutral), (0x9fb, 0x9fb, .neutral),
  (0xaf1, 0xaf1, .neutral), (0xbf3, 0xbfa, .neutral), (0xc78, 0xc7e, .neutral), (0xe3f, 0xe3f, .neutral),
  (0xf3a, 0xf3d, .neutral), (0x1390, 0x1399, .neutral), (0x1400, 0x1400, .neutral), (0x169b, 0x169c, .neutral),
  (0x17db, 0x17db, .neutral), (0x17f0, 0x17f9, .neutral), (0x1800, 0x180a, .neutral), (0x1940, 0x1940, .neutral),
  (0x1944, 0x1945, .neutral), (0x19de, 0x19ff, .neutral), (0x1b4e, 0x1b4f, .neutral), (0x1b7f, 0x1b7f, .neutral),
  (0x200c, 0x200d, .neutral), (0x2010, 0x2010, .neutral), (0x2012, 0x2016, .neutral), (0x2018, 0x2023, .neutral),
  (0x2027, 0x2027, .neutral), (0x2030, 0x2032, .neutral), (0x2035, 0x2035, .neutral), (0x2038, 0x203b, .neutral),
  (0x203d, 0x203d, .neutral), (0x203f, 0x2046, .neutral), (0x204a, 0x2056, .neutral), (0x2058, 0x205e, .neutral),
  (0x20a0, 0x20a7, .neutral), (0x20a9, 0x20c1, .neutral), (0x2104, 0x2104, .neutral), (0x2108, 0x2108, .neutral),
  (0x2114, 0x2114, .neutral), (0x2117, 0x2118, .neutral), (0x211e, 0x211f, .neutral), (0x2123, 0x2123, .neutral),
  (0x2125, 0x2125, .neutral), (0x2127, 0x2127, .neutral), (0x2129, 0x2129, .neutral), (0x212e, 0x212e, .neutral),
  (0x213a, 0x213a, .neutral), (0x2141, 0x2144, .neutral), (0x214a, 0x214d, .neutral), (0x218a, 0x218b, .neutral),
  (0x2190, 0x222b, .neutral), (0x222e, 0x222e, .neutral), (0x2231, 0x2328, .neutral), (0x232b, 0x2335, .neutral),
  (0x237b, 0x2394, .neutral), (0x2396, 0x2429, .neutral), (0x2440, 0x244a, .neutral), (0x24eb, 0x26ab, .neutral),
  (0x26ad, 0x27ff, .neutral), (0x2900, 0x2a0b, .neutral), (0x2a0d, 0x2a73, .neutral), (0x2a77, 0x2adb, .neutral),
  (0x2add, 0x2b73, .neutral), (0x2b76, 0x2bff, .neutral), (0x2ce5, 0x2cea, .neutral), (0x2cf9, 0x2cff, .neutral),
  (0x2e00, 0x2e5d, .neutral), (0x2e80, 0x2e99, .neutral), (0x2e9b, 0x2e9e, .neutral), (0x2ea0, 0x2ef2, .neutral),
  (0x3001, 0x3001, .neutral), (0x3003, 0x3004, .neutral), (0x3008, 0x3020, .neutral), (0x3030, 0x3030, .neutral),
  (0x3037, 0x3037, .neutral), (0x303d, 0x303f, .neutral), (0x30a0, 0x30a0, .neutral), (0x30fb, 0x30fb, .neutral),
  (0x31c0, 0x31e5, .neutral), (0x4dc0, 0x4dff, .neutral), (0xa490, 0xa4c6, .neutral), (0xa60d, 0xa60f, .neutral),
  (0xa673, 0xa673, .neutral), (0xa67e, 0xa67f, .neutral), (0xa700, 0xa721, .neutral), (0xa788, 0xa788, .neutral),
  (0xa828, 0xa82b, .neutral), (0xa838, 0xa839, .neutral), (0xa874, 0xa877, .neutral), (0xab6a, 0xab6b, .neutral),
  (0xfbb2, 0xfbc2, .right), (0xfbc3, 0xfbd2, .neutral), (0xfd3e, 0xfd4f, .neutral), (0xfd90, 0xfd91, .neutral),
  (0xfdc8, 0xfdcf, .neutral), (0xfdfd, 0xfdff, .neutral), (0xfe45, 0xfe46, .neutral), (0xfe73, 0xfe73, .right),
  (0x10101, 0x10101, .neutral), (0x10140, 0x1018c, .neutral), (0x10190, 0x1019c, .neutral),
  (0x101a0, 0x101a0, .neutral), (0x102e1, 0x102fb, .digit), (0x10800, 0x10805, .right), (0x10808, 0x10808, .right),
  (0x1080a, 0x10835, .right), (0x10837, 0x10838, .right), (0x1083c, 0x1083c, .right), (0x1083f, 0x10855, .right),
  (0x10857, 0x1089e, .right), (0x108a7, 0x108af, .right), (0x108e0, 0x108f2, .right), (0x108f4, 0x108f5, .right),
  (0x108fb, 0x1091b, .right), (0x1091f, 0x1091f, .neutral), (0x10920, 0x10939, .right), (0x1093f, 0x10959, .right),
  (0x10980, 0x109b7, .right), (0x109bc, 0x109cf, .right), (0x109d2, 0x10a00, .right), (0x10a10, 0x10a13, .right),
  (0x10a15, 0x10a17, .right), (0x10a19, 0x10a35, .right), (0x10a40, 0x10a48, .right), (0x10a50, 0x10a58, .right),
  (0x10a60, 0x10a9f, .right), (0x10ac0, 0x10ae4, .right), (0x10aeb, 0x10af6, .right), (0x10b00, 0x10b35, .right),
  (0x10b39, 0x10b3f, .neutral), (0x10b40, 0x10b55, .right), (0x10b58, 0x10b72, .right), (0x10b78, 0x10b91, .right),
  (0x10b99, 0x10b9c, .right), (0x10ba9, 0x10baf, .right), (0x10c00, 0x10c48, .right), (0x10cc0, 0x10cf2, .right),
  (0x10cfa, 0x10d23, .right), (0x10d30, 0x10d39, .arabicDigit), (0x10d40, 0x10d4f, .right),
  (0x10d6e, 0x10d85, .right), (0x10d8e, 0x10d8f, .right), (0x10e60, 0x10e7e, .arabicDigit),
  (0x10e80, 0x10ea9, .right), (0x10ead, 0x10ead, .right), (0x10eb0, 0x10eb1, .right), (0x10ec2, 0x10ec7, .right),
  (0x10ed0, 0x10ed8, .right), (0x10f00, 0x10f27, .right), (0x10f30, 0x10f45, .right), (0x10f51, 0x10f59, .right),
  (0x10f70, 0x10f81, .right), (0x10f86, 0x10f89, .right), (0x10fb0, 0x10fcb, .right), (0x10fe0, 0x10ff6, .right),
  (0x11052, 0x11065, .neutral), (0x113d4, 0x113d5, .neutral), (0x113d7, 0x113d8, .neutral),
  (0x11660, 0x1166c, .neutral), (0x11be1, 0x11be1, .neutral), (0x11fd5, 0x11ff1, .neutral),
  (0x16d6d, 0x16d6f, .neutral), (0x16fe2, 0x16fe2, .neutral), (0x1cc00, 0x1ccd5, .neutral),
  (0x1ccfa, 0x1ccfc, .neutral), (0x1cd00, 0x1ceb3, .neutral), (0x1ceba, 0x1ced0, .neutral),
  (0x1cee0, 0x1cef0, .neutral), (0x1d1e9, 0x1d1ea, .neutral), (0x1d200, 0x1d241, .neutral),
  (0x1d245, 0x1d245, .neutral), (0x1d300, 0x1d356, .neutral), (0x1e2ff, 0x1e2ff, .neutral),
  (0x1e5ff, 0x1e5ff, .neutral), (0x1e800, 0x1e8c4, .right), (0x1e8c7, 0x1e8cf, .right), (0x1e922, 0x1e943, .right),
  (0x1e94b, 0x1e94b, .right), (0x1e950, 0x1e959, .right), (0x1e95e, 0x1e95f, .right), (0x1ec71, 0x1ecb4, .right),
  (0x1ed01, 0x1ed3d, .right), (0x1eef0, 0x1eef1, .neutral), (0x1f000, 0x1f02b, .neutral),
  (0x1f030, 0x1f093, .neutral), (0x1f0a0, 0x1f0ae, .neutral), (0x1f0b1, 0x1f0bf, .neutral),
  (0x1f0c1, 0x1f0cf, .neutral), (0x1f0d1, 0x1f0f5, .neutral), (0x1f10b, 0x1f10f, .neutral),
  (0x1f12f, 0x1f12f, .neutral), (0x1f16d, 0x1f16f, .neutral), (0x1f1ad, 0x1f1ad, .neutral),
  (0x1f260, 0x1f265, .neutral), (0x1f300, 0x1f6d8, .neutral), (0x1f6dc, 0x1f6ec, .neutral),
  (0x1f6f0, 0x1f6fc, .neutral), (0x1f700, 0x1f7d9, .neutral), (0x1f7e0, 0x1f7eb, .neutral),
  (0x1f7f0, 0x1f7f0, .neutral), (0x1f800, 0x1f80b, .neutral), (0x1f810, 0x1f847, .neutral),
  (0x1f850, 0x1f859, .neutral), (0x1f860, 0x1f887, .neutral), (0x1f890, 0x1f8ad, .neutral),
  (0x1f8b0, 0x1f8bb, .neutral), (0x1f8c0, 0x1f8c1, .neutral), (0x1f8d0, 0x1f8d8, .neutral),
  (0x1f900, 0x1fa57, .neutral), (0x1fa60, 0x1fa6d, .neutral), (0x1fa70, 0x1fa7c, .neutral),
  (0x1fa80, 0x1fa8a, .neutral), (0x1fa8e, 0x1fac6, .neutral), (0x1fac8, 0x1fac8, .neutral),
  (0x1facd, 0x1fadc, .neutral), (0x1fadf, 0x1faea, .neutral), (0x1faef, 0x1faf8, .neutral),
  (0x1fb00, 0x1fb92, .neutral), (0x1fb94, 0x1fbef, .neutral), (0x1fbfa, 0x1fbfa, .neutral)]

/-- The direction of a character. -/
def Direction.of (c : Char) : Direction :=
  if Text.isNonspacing c then .mark
  else
    match Text.floor? Prod.fst directions c.toNat with
    | some (_, last, d) => if c.toNat ≤ last then d else .left
    | none => .left

/-- Does a text hold a character written from right to left, or a digit that goes with such ones? -/
def isRightToLeft (t : Text) : Bool := t.any fun c => Direction.of c = .right || Direction.of c = .arabicDigit

/-- The directions of a text, without the marks at its end. -/
def outline (t : Text) : List Direction :=
  ((t.map Direction.of).reverse.dropWhile (· = .mark)).reverse

/-- Is a label written in one direction? It must begin with a letter of that direction, end with such a letter or a
digit, and not mix digits of two kinds. -/
def isDirected (t : Text) : Bool :=
  let ds := outline t
  match ds.head?, ds.getLast? with
  | none, _ => t = []
  | some .left, some last =>
    (last = .left || last = .digit) && ds.all fun d => d ≠ .right && d ≠ .arabicDigit
  | some .right, some last =>
    (last = .right || last = .digit || last = .arabicDigit) && ds.all (· ≠ .left) &&
      !(ds.contains .digit && ds.contains .arabicDigit)
  | _, _ => false

end PageHarvest.Url.Domain
