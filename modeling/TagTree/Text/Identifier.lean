import TagTree.Text.Letter

/-!
# Identifiers

What can begin an identifier and what can go on in it, by Unicode 14 and in such a way that
identifiers stay identifiers when they are normalised for compatibility.
-/

namespace TagTree.Text

/-- The letters that cannot begin an identifier, as ascending runs. -/
def nonInitialLetters : List (Nat × Nat) :=
  [ (0x37a, 1), (0xe33, 1), (0xeb3, 1), (0x2e2f, 1), (0xfc5e, 6), (0xfdfa, 2), (0xfe70, 1),
    (0xfe72, 1), (0xfe74, 1), (0xfe76, 1), (0xfe78, 1), (0xfe7a, 1), (0xfe7c, 1), (0xfe7e, 1),
    (0xff9e, 2) ]

/-- The characters that can begin an identifier without being letters. -/
def otherInitials : List (Nat × Nat) :=
  [ (0x5f, 1), (0x16ee, 3), (0x1885, 2), (0x2118, 1), (0x212e, 1), (0x2160, 35), (0x2185, 4),
    (0x3007, 1), (0x3021, 9), (0x3038, 3), (0xa6e6, 10), (0x10140, 53), (0x10341, 1), (0x1034a, 1),
    (0x103d1, 5), (0x12400, 111) ]

/-- The characters that can go on in an identifier and cannot begin it. -/
def medialRanges : List (Nat × Nat) :=
  [ (0x30, 10), (0xb7, 1), (0x300, 112), (0x387, 1), (0x483, 5), (0x591, 45), (0x5bf, 1),
    (0x5c1, 2), (0x5c4, 2), (0x5c7, 1), (0x610, 11), (0x64b, 31), (0x670, 1), (0x6d6, 7),
    (0x6df, 6), (0x6e7, 2), (0x6ea, 4), (0x6f0, 10), (0x711, 1), (0x730, 27), (0x7a6, 11),
    (0x7c0, 10), (0x7eb, 9), (0x7fd, 1), (0x816, 4), (0x81b, 9), (0x825, 3), (0x829, 5), (0x859, 3),
    (0x898, 8), (0x8ca, 24), (0x8e3, 33), (0x93a, 3), (0x93e, 18), (0x951, 7), (0x962, 2),
    (0x966, 10), (0x981, 3), (0x9bc, 1), (0x9be, 7), (0x9c7, 2), (0x9cb, 3), (0x9d7, 1), (0x9e2, 2),
    (0x9e6, 10), (0x9fe, 1), (0xa01, 3), (0xa3c, 1), (0xa3e, 5), (0xa47, 2), (0xa4b, 3), (0xa51, 1),
    (0xa66, 12), (0xa75, 1), (0xa81, 3), (0xabc, 1), (0xabe, 8), (0xac7, 3), (0xacb, 3), (0xae2, 2),
    (0xae6, 10), (0xafa, 6), (0xb01, 3), (0xb3c, 1), (0xb3e, 7), (0xb47, 2), (0xb4b, 3), (0xb55, 3),
    (0xb62, 2), (0xb66, 10), (0xb82, 1), (0xbbe, 5), (0xbc6, 3), (0xbca, 4), (0xbd7, 1),
    (0xbe6, 10), (0xc00, 5), (0xc3c, 1), (0xc3e, 7), (0xc46, 3), (0xc4a, 4), (0xc55, 2), (0xc62, 2),
    (0xc66, 10), (0xc81, 3), (0xcbc, 1), (0xcbe, 7), (0xcc6, 3), (0xcca, 4), (0xcd5, 2), (0xce2, 2),
    (0xce6, 10), (0xd00, 4), (0xd3b, 2), (0xd3e, 7), (0xd46, 3), (0xd4a, 4), (0xd57, 1), (0xd62, 2),
    (0xd66, 10), (0xd81, 3), (0xdca, 1), (0xdcf, 6), (0xdd6, 1), (0xdd8, 8), (0xde6, 10),
    (0xdf2, 2), (0xe31, 1), (0xe33, 8), (0xe47, 8), (0xe50, 10), (0xeb1, 1), (0xeb3, 10),
    (0xec8, 6), (0xed0, 10), (0xf18, 2), (0xf20, 10), (0xf35, 1), (0xf37, 1), (0xf39, 1),
    (0xf3e, 2), (0xf71, 20), (0xf86, 2), (0xf8d, 11), (0xf99, 36), (0xfc6, 1), (0x102b, 20),
    (0x1040, 10), (0x1056, 4), (0x105e, 3), (0x1062, 3), (0x1067, 7), (0x1071, 4), (0x1082, 12),
    (0x108f, 15), (0x135d, 3), (0x1369, 9), (0x1712, 4), (0x1732, 3), (0x1752, 2), (0x1772, 2),
    (0x17b4, 32), (0x17dd, 1), (0x17e0, 10), (0x180b, 3), (0x180f, 11), (0x18a9, 1), (0x1920, 12),
    (0x1930, 12), (0x1946, 10), (0x19d0, 11), (0x1a17, 5), (0x1a55, 10), (0x1a60, 29), (0x1a7f, 11),
    (0x1a90, 10), (0x1ab0, 14), (0x1abf, 16), (0x1b00, 5), (0x1b34, 17), (0x1b50, 10), (0x1b6b, 9),
    (0x1b80, 3), (0x1ba1, 13), (0x1bb0, 10), (0x1be6, 14), (0x1c24, 20), (0x1c40, 10), (0x1c50, 10),
    (0x1cd0, 3), (0x1cd4, 21), (0x1ced, 1), (0x1cf4, 1), (0x1cf7, 3), (0x1dc0, 64), (0x203f, 2),
    (0x2054, 1), (0x20d0, 13), (0x20e1, 1), (0x20e5, 12), (0x2cef, 3), (0x2d7f, 1), (0x2de0, 32),
    (0x302a, 6), (0x3099, 2), (0xa620, 10), (0xa66f, 1), (0xa674, 10), (0xa69e, 2), (0xa6f0, 2),
    (0xa802, 1), (0xa806, 1), (0xa80b, 1), (0xa823, 5), (0xa82c, 1), (0xa880, 2), (0xa8b4, 18),
    (0xa8d0, 10), (0xa8e0, 18), (0xa8ff, 11), (0xa926, 8), (0xa947, 13), (0xa980, 4), (0xa9b3, 14),
    (0xa9d0, 10), (0xa9e5, 1), (0xa9f0, 10), (0xaa29, 14), (0xaa43, 1), (0xaa4c, 2), (0xaa50, 10),
    (0xaa7b, 3), (0xaab0, 1), (0xaab2, 3), (0xaab7, 2), (0xaabe, 2), (0xaac1, 1), (0xaaeb, 5),
    (0xaaf5, 2), (0xabe3, 8), (0xabec, 2), (0xabf0, 10), (0xfb1e, 1), (0xfe00, 16), (0xfe20, 16),
    (0xfe33, 2), (0xfe4d, 3), (0xff10, 10), (0xff3f, 1), (0xff9e, 2), (0x101fd, 1), (0x102e0, 1),
    (0x10376, 5), (0x104a0, 10), (0x10a01, 3), (0x10a05, 2), (0x10a0c, 4), (0x10a38, 3),
    (0x10a3f, 1), (0x10ae5, 2), (0x10d24, 4), (0x10d30, 10), (0x10eab, 2), (0x10f46, 11),
    (0x10f82, 4), (0x11000, 3), (0x11038, 15), (0x11066, 11), (0x11073, 2), (0x1107f, 4),
    (0x110b0, 11), (0x110c2, 1), (0x110f0, 10), (0x11100, 3), (0x11127, 14), (0x11136, 10),
    (0x11145, 2), (0x11173, 1), (0x11180, 3), (0x111b3, 14), (0x111c9, 4), (0x111ce, 12),
    (0x1122c, 12), (0x1123e, 1), (0x112df, 12), (0x112f0, 10), (0x11300, 4), (0x1133b, 2),
    (0x1133e, 7), (0x11347, 2), (0x1134b, 3), (0x11357, 1), (0x11362, 2), (0x11366, 7),
    (0x11370, 5), (0x11435, 18), (0x11450, 10), (0x1145e, 1), (0x114b0, 20), (0x114d0, 10),
    (0x115af, 7), (0x115b8, 9), (0x115dc, 2), (0x11630, 17), (0x11650, 10), (0x116ab, 13),
    (0x116c0, 10), (0x1171d, 15), (0x11730, 10), (0x1182c, 15), (0x118e0, 10), (0x11930, 6),
    (0x11937, 2), (0x1193b, 4), (0x11940, 1), (0x11942, 2), (0x11950, 10), (0x119d1, 7),
    (0x119da, 7), (0x119e4, 1), (0x11a01, 10), (0x11a33, 7), (0x11a3b, 4), (0x11a47, 1),
    (0x11a51, 11), (0x11a8a, 16), (0x11c2f, 8), (0x11c38, 8), (0x11c50, 10), (0x11c92, 22),
    (0x11ca9, 14), (0x11d31, 6), (0x11d3a, 1), (0x11d3c, 2), (0x11d3f, 7), (0x11d47, 1),
    (0x11d50, 10), (0x11d8a, 5), (0x11d90, 2), (0x11d93, 5), (0x11da0, 10), (0x11ef3, 4),
    (0x16a60, 10), (0x16ac0, 10), (0x16af0, 5), (0x16b30, 7), (0x16b50, 10), (0x16f4f, 1),
    (0x16f51, 55), (0x16f8f, 4), (0x16fe4, 1), (0x16ff0, 2), (0x1bc9d, 2), (0x1cf00, 46),
    (0x1cf30, 23), (0x1d165, 5), (0x1d16d, 6), (0x1d17b, 8), (0x1d185, 7), (0x1d1aa, 4),
    (0x1d242, 3), (0x1d7ce, 50), (0x1da00, 55), (0x1da3b, 50), (0x1da75, 1), (0x1da84, 1),
    (0x1da9b, 5), (0x1daa1, 15), (0x1e000, 7), (0x1e008, 17), (0x1e01b, 7), (0x1e023, 2),
    (0x1e026, 5), (0x1e130, 7), (0x1e140, 10), (0x1e2ae, 1), (0x1e2ec, 14), (0x1e8d0, 7),
    (0x1e944, 7), (0x1e950, 10), (0x1fbf0, 10), (0xe0100, 240) ]

def canBeginIdentifier (c : Char) : Bool :=
  (isLetter c && !inRanges nonInitialLetters c) || inRanges otherInitials c

def canContinueIdentifier (c : Char) : Bool :=
  canBeginIdentifier c || inRanges medialRanges c

def isIdentifier : List Char → Bool
  | [] => false
  | c :: rest => canBeginIdentifier c && rest.all canContinueIdentifier

end TagTree.Text
