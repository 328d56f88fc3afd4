import Banter.Text.Span

/-! The characters of domains that are no letters, marks or digits, and some scripts. -/
namespace Banter.Url

def symbolSpans : List (Nat × Nat) :=
  [(0x0, 0x2c), (0x2e, 0x2f), (0x3a, 0x60), (0x7b, 0xb6), (0xbb, 0xd7), (0xf7, 0xf7),
   (0x2c2, 0x2c5), (0x2d2, 0x2eb), (0x2ed, 0x2ed), (0x2ef, 0x2ff), (0x3f6, 0x3f6), (0x482, 0x482),
   (0x488, 0x489), (0x55a, 0x55f), (0x589, 0x58f), (0x5be, 0x5be), (0x5c0, 0x5c0), (0x5c3, 0x5c3),
   (0x5c6, 0x5c6), (0x606, 0x60f), (0x61b, 0x61f), (0x640, 0x640), (0x66a, 0x66d), (0x6d4, 0x6d4),
   (0x6de, 0x6de), (0x6e9, 0x6e9), (0x700, 0x70d), (0x7f6, 0x7fa), (0x7fe, 0x7ff), (0x830, 0x83e),
   (0x85e, 0x85e), (0x888, 0x888), (0x964, 0x965), (0x970, 0x970), (0x9f2, 0x9fb), (0x9fd, 0x9fd),
   (0xa76, 0xa76), (0xaf0, 0xaf1), (0xb70, 0xb70), (0xb72, 0xb77), (0xbf0, 0xbfa), (0xc77, 0xc7f),
   (0xc84, 0xc84), (0xd4f, 0xd4f), (0xd58, 0xd5e), (0xd70, 0xd79), (0xdf4, 0xdf4), (0xe3f, 0xe3f),
   (0xe4f, 0xe4f), (0xe5a, 0xe5b), (0xf01, 0xf0a), (0xf0d, 0xf17), (0xf1a, 0xf1f), (0xf2a, 0xf34),
   (0xf36, 0xf36), (0xf38, 0xf38), (0xf3a, 0xf3d), (0xf85, 0xf85), (0xfbe, 0xfc5), (0xfc7, 0xfda),
   (0x104a, 0x104f), (0x109e, 0x109f), (0x10fb, 0x10fb), (0x1100, 0x11ff), (0x1360, 0x137c),
   (0x1390, 0x1399), (0x1400, 0x1400), (0x166d, 0x166e), (0x169b, 0x169c), (0x16eb, 0x16f0),
   (0x1735, 0x1736), (0x17d4, 0x17d6), (0x17d8, 0x17db), (0x17f0, 0x180a), (0x1940, 0x1945),
   (0x19da, 0x19ff), (0x1a1e, 0x1a1f), (0x1aa0, 0x1aa6), (0x1aa8, 0x1aad), (0x1abe, 0x1abe),
   (0x1b4e, 0x1b4f), (0x1b5a, 0x1b6a), (0x1b74, 0x1b7f), (0x1bfc, 0x1bff), (0x1c3b, 0x1c3f),
   (0x1c7e, 0x1c7f), (0x1cc0, 0x1cc7), (0x1cd3, 0x1cd3), (0x2010, 0x214d), (0x214f, 0x2182),
   (0x2185, 0x2bff), (0x2ce5, 0x2cea), (0x2cf9, 0x2cff), (0x2d70, 0x2d70), (0x2e00, 0x2e2e),
   (0x2e30, 0x3004), (0x3008, 0x3029), (0x302e, 0x303b), (0x303d, 0x303f), (0x30a0, 0x30a0),
   (0x3190, 0x3191), (0x31c0, 0x31e5), (0x3248, 0x327f), (0x4dc0, 0x4dff), (0xa490, 0xa4c6),
   (0xa4fe, 0xa4ff), (0xa60d, 0xa60f), (0xa670, 0xa673), (0xa67e, 0xa67e), (0xa6e6, 0xa6ef),
   (0xa6f2, 0xa716), (0xa720, 0xa721), (0xa789, 0xa78a), (0xa828, 0xa82b), (0xa830, 0xa839),
   (0xa874, 0xa877), (0xa8ce, 0xa8cf), (0xa8f8, 0xa8fa), (0xa8fc, 0xa8fc), (0xa92e, 0xa92f),
   (0xa95f, 0xa97c), (0xa9c1, 0xa9cd), (0xa9de, 0xa9df), (0xaa5c, 0xaa5f), (0xaa77, 0xaa79),
   (0xaade, 0xaadf), (0xaaf0, 0xaaf1), (0xab5b, 0xab5b), (0xab6a, 0xab6b), (0xabeb, 0xabeb),
   (0xd7b0, 0xd7fb), (0xfbb2, 0xfdff), (0xfe45, 0xfe46), (0x10100, 0x101fc), (0x102e1, 0x102fb),
   (0x10320, 0x10323), (0x10341, 0x10341), (0x1034a, 0x1034a), (0x1039f, 0x1039f),
   (0x103d0, 0x103d5), (0x1056f, 0x1056f), (0x10857, 0x1085f), (0x10877, 0x1087f),
   (0x108a7, 0x108af), (0x108fb, 0x108ff), (0x10916, 0x1091f), (0x1093f, 0x1093f),
   (0x109bc, 0x109bd), (0x109c0, 0x109ff), (0x10a40, 0x10a58), (0x10a7d, 0x10a7f),
   (0x10a9d, 0x10a9f), (0x10ac8, 0x10ac8), (0x10aeb, 0x10af6), (0x10b39, 0x10b3f),
   (0x10b58, 0x10b5f), (0x10b78, 0x10b7f), (0x10b99, 0x10baf), (0x10cfa, 0x10cff),
   (0x10d6e, 0x10d6e), (0x10d8e, 0x10e7e), (0x10ead, 0x10ead), (0x10ed0, 0x10ed8),
   (0x10f1d, 0x10f26), (0x10f51, 0x10f59), (0x10f86, 0x10f89), (0x10fc5, 0x10fcb),
   (0x11047, 0x11065), (0x110bb, 0x110c1), (0x11140, 0x11143), (0x11174, 0x11175),
   (0x111c5, 0x111c8), (0x111cd, 0x111cd), (0x111db, 0x111db), (0x111dd, 0x111f4),
   (0x11238, 0x1123d), (0x112a9, 0x112a9), (0x113d4, 0x113d8), (0x1144b, 0x1144f),
   (0x1145a, 0x1145d), (0x114c6, 0x114c6), (0x115c1, 0x115d7), (0x11641, 0x11643),
   (0x11660, 0x1166c), (0x116b9, 0x116b9), (0x1173a, 0x1173f), (0x1183b, 0x1183b),
   (0x118ea, 0x118f2), (0x11944, 0x11946), (0x119e2, 0x119e2), (0x11a3f, 0x11a46),
   (0x11a9a, 0x11a9c), (0x11a9e, 0x11aa2), (0x11b00, 0x11b09), (0x11be1, 0x11be1),
   (0x11c41, 0x11c45), (0x11c5a, 0x11c71), (0x11ef7, 0x11ef8), (0x11f43, 0x11f4f),
   (0x11fc0, 0x11fff), (0x12400, 0x12474), (0x12ff1, 0x12ff2), (0x16a6e, 0x16a6f),
   (0x16af5, 0x16af5), (0x16b37, 0x16b3f), (0x16b44, 0x16b45), (0x16b5b, 0x16b61),
   (0x16d6d, 0x16d6f), (0x16e80, 0x16e9a), (0x16fe2, 0x16fe2), (0x16ff4, 0x16ff6),
   (0x1bc9c, 0x1bc9c), (0x1bc9f, 0x1cef0), (0x1cf50, 0x1d9ff), (0x1da37, 0x1da3a),
   (0x1da6d, 0x1da74), (0x1da76, 0x1da83), (0x1da85, 0x1da8b), (0x1e14f, 0x1e14f),
   (0x1e2ff, 0x1e2ff), (0x1e5ff, 0x1e5ff), (0x1e8c7, 0x1e8cf), (0x1e95e, 0x1fbfa)]

/-- Signs, pictures and the like. -/
def isSymbol (c : Char) : Bool :=
  Text.inSpans c.toNat symbolSpans

def greekSpans : List (Nat × Nat) :=
  [(0x371, 0x3e1), (0x3f3, 0x3fc), (0x1d26, 0x1d2a), (0x1f00, 0x1ff6), (0xab65, 0xab65),
   (0x10140, 0x1018e), (0x101a0, 0x101a0), (0x1d200, 0x1d245)]

def isGreek (c : Char) : Bool :=
  Text.inSpans c.toNat greekSpans

def hebrewSpans : List (Nat × Nat) :=
  [(0x591, 0x5f4), (0xfb1e, 0xfb1e)]

def isHebrew (c : Char) : Bool :=
  Text.inSpans c.toNat hebrewSpans

def japaneseSpans : List (Nat × Nat) :=
  [(0x2e80, 0x2ef2), (0x3005, 0x3005), (0x3007, 0x3007), (0x3021, 0x3029), (0x303b, 0x303b),
   (0x3041, 0x3096), (0x309d, 0x309e), (0x30a1, 0x30fa), (0x30fd, 0x30fe), (0x31f0, 0x31ff),
   (0x3400, 0x4dbf), (0x4e00, 0x9fff), (0xfa0e, 0xfa29), (0x16fe2, 0x16fe3), (0x16ff0, 0x16ff6),
   (0x1aff0, 0x1b167), (0x20000, 0x33479)]

def isJapanese (c : Char) : Bool :=
  Text.inSpans c.toNat japaneseSpans

end Banter.Url
