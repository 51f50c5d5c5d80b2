import NetworkTuning.Text.Ranges

/-!
# Composed characters

A letter with marks can be written in several ways: with some of the marks in one character with it,
and with the others in various orders. In composed form the marks stand in the order of their
classes, and as many as possible are in one character with the letter.
-/

namespace NetworkTuning.Text

/-- First and last code point of each range of marks, and the class that orders them. -/
def markClasses : List (Nat × Nat × Nat) := [
  (0x300, 0x314, 230), (0x315, 0x315, 232), (0x316, 0x319, 220), (0x31a, 0x31a, 232),
  (0x31b, 0x31b, 216), (0x31c, 0x320, 220), (0x321, 0x322, 202), (0x323, 0x326, 220),
  (0x327, 0x328, 202), (0x329, 0x333, 220), (0x334, 0x338, 1), (0x339, 0x33c, 220),
  (0x33d, 0x344, 230), (0x345, 0x345, 240), (0x346, 0x346, 230), (0x347, 0x349, 220),
  (0x34a, 0x34c, 230), (0x34d, 0x34e, 220), (0x350, 0x352, 230), (0x353, 0x356, 220),
  (0x357, 0x357, 230), (0x358, 0x358, 232), (0x359, 0x35a, 220), (0x35b, 0x35b, 230),
  (0x35c, 0x35c, 233), (0x35d, 0x35e, 234), (0x35f, 0x35f, 233), (0x360, 0x361, 234),
  (0x362, 0x362, 233), (0x363, 0x36f, 230), (0x483, 0x487, 230), (0x591, 0x591, 220),
  (0x592, 0x595, 230), (0x596, 0x596, 220), (0x597, 0x599, 230), (0x59a, 0x59a, 222),
  (0x59b, 0x59b, 220), (0x59c, 0x5a1, 230), (0x5a2, 0x5a7, 220), (0x5a8, 0x5a9, 230),
  (0x5aa, 0x5aa, 220), (0x5ab, 0x5ac, 230), (0x5ad, 0x5ad, 222), (0x5ae, 0x5ae, 228),
  (0x5af, 0x5af, 230), (0x5b0, 0x5b0, 10), (0x5b1, 0x5b1, 11), (0x5b2, 0x5b2, 12),
  (0x5b3, 0x5b3, 13), (0x5b4, 0x5b4, 14), (0x5b5, 0x5b5, 15), (0x5b6, 0x5b6, 16),
  (0x5b7, 0x5b7, 17), (0x5b8, 0x5b8, 18), (0x5b9, 0x5ba, 19), (0x5bb, 0x5bb, 20),
  (0x5bc, 0x5bc, 21), (0x5bd, 0x5bd, 22), (0x5bf, 0x5bf, 23), (0x5c1, 0x5c1, 24),
  (0x5c2, 0x5c2, 25), (0x5c4, 0x5c4, 230), (0x5c5, 0x5c5, 220), (0x5c7, 0x5c7, 18),
  (0x610, 0x617, 230), (0x618, 0x618, 30), (0x619, 0x619, 31), (0x61a, 0x61a, 32),
  (0x64b, 0x64b, 27), (0x64c, 0x64c, 28), (0x64d, 0x64d, 29), (0x64e, 0x64e, 30),
  (0x64f, 0x64f, 31), (0x650, 0x650, 32), (0x651, 0x651, 33), (0x652, 0x652, 34),
  (0x653, 0x654, 230), (0x655, 0x656, 220), (0x657, 0x65b, 230), (0x65c, 0x65c, 220),
  (0x65d, 0x65e, 230), (0x65f, 0x65f, 220), (0x670, 0x670, 35), (0x6d6, 0x6dc, 230),
  (0x6df, 0x6e2, 230), (0x6e3, 0x6e3, 220), (0x6e4, 0x6e4, 230), (0x6e7, 0x6e8, 230),
  (0x6ea, 0x6ea, 220), (0x6eb, 0x6ec, 230), (0x6ed, 0x6ed, 220), (0x711, 0x711, 36),
  (0x730, 0x730, 230), (0x731, 0x731, 220), (0x732, 0x733, 230), (0x734, 0x734, 220),
  (0x735, 0x736, 230), (0x737, 0x739, 220), (0x73a, 0x73a, 230), (0x73b, 0x73c, 220),
  (0x73d, 0x73d, 230), (0x73e, 0x73e, 220), (0x73f, 0x741, 230), (0x742, 0x742, 220),
  (0x743, 0x743, 230), (0x744, 0x744, 220), (0x745, 0x745, 230), (0x746, 0x746, 220),
  (0x747, 0x747, 230), (0x748, 0x748, 220), (0x749, 0x74a, 230), (0x7eb, 0x7f1, 230),
  (0x7f2, 0x7f2, 220), (0x7f3, 0x7f3, 230), (0x7fd, 0x7fd, 220), (0x816, 0x819, 230),
  (0x81b, 0x823, 230), (0x825, 0x827, 230), (0x829, 0x82d, 230), (0x859, 0x85b, 220),
  (0x897, 0x898, 230), (0x899, 0x89b, 220), (0x89c, 0x89f, 230), (0x8ca, 0x8ce, 230),
  (0x8cf, 0x8d3, 220), (0x8d4, 0x8e1, 230), (0x8e3, 0x8e3, 220), (0x8e4, 0x8e5, 230),
  (0x8e6, 0x8e6, 220), (0x8e7, 0x8e8, 230), (0x8e9, 0x8e9, 220), (0x8ea, 0x8ec, 230),
  (0x8ed, 0x8ef, 220), (0x8f0, 0x8f0, 27), (0x8f1, 0x8f1, 28), (0x8f2, 0x8f2, 29),
  (0x8f3, 0x8f5, 230), (0x8f6, 0x8f6, 220), (0x8f7, 0x8f8, 230), (0x8f9, 0x8fa, 220),
  (0x8fb, 0x8ff, 230), (0x93c, 0x93c, 7), (0x94d, 0x94d, 9), (0x951, 0x951, 230),
  (0x952, 0x952, 220), (0x953, 0x954, 230), (0x9bc, 0x9bc, 7), (0x9cd, 0x9cd, 9),
  (0x9fe, 0x9fe, 230), (0xa3c, 0xa3c, 7), (0xa4d, 0xa4d, 9), (0xabc, 0xabc, 7), (0xacd, 0xacd, 9),
  (0xb3c, 0xb3c, 7), (0xb4d, 0xb4d, 9), (0xbcd, 0xbcd, 9), (0xc3c, 0xc3c, 7), (0xc4d, 0xc4d, 9),
  (0xc55, 0xc55, 84), (0xc56, 0xc56, 91), (0xcbc, 0xcbc, 7), (0xccd, 0xccd, 9), (0xd3b, 0xd3c, 9),
  (0xd4d, 0xd4d, 9), (0xdca, 0xdca, 9), (0xe38, 0xe39, 103), (0xe3a, 0xe3a, 9), (0xe48, 0xe4b, 107),
  (0xeb8, 0xeb9, 118), (0xeba, 0xeba, 9), (0xec8, 0xecb, 122), (0xf18, 0xf19, 220),
  (0xf35, 0xf35, 220), (0xf37, 0xf37, 220), (0xf39, 0xf39, 216), (0xf71, 0xf71, 129),
  (0xf72, 0xf72, 130), (0xf74, 0xf74, 132), (0xf7a, 0xf7d, 130), (0xf80, 0xf80, 130),
  (0xf82, 0xf83, 230), (0xf84, 0xf84, 9), (0xf86, 0xf87, 230), (0xfc6, 0xfc6, 220),
  (0x1037, 0x1037, 7), (0x1039, 0x103a, 9), (0x108d, 0x108d, 220), (0x135d, 0x135f, 230),
  (0x1714, 0x1715, 9), (0x1734, 0x1734, 9), (0x17d2, 0x17d2, 9), (0x17dd, 0x17dd, 230),
  (0x18a9, 0x18a9, 228), (0x1939, 0x1939, 222), (0x193a, 0x193a, 230), (0x193b, 0x193b, 220),
  (0x1a17, 0x1a17, 230), (0x1a18, 0x1a18, 220), (0x1a60, 0x1a60, 9), (0x1a75, 0x1a7c, 230),
  (0x1a7f, 0x1a7f, 220), (0x1ab0, 0x1ab4, 230), (0x1ab5, 0x1aba, 220), (0x1abb, 0x1abc, 230),
  (0x1abd, 0x1abd, 220), (0x1abf, 0x1ac0, 220), (0x1ac1, 0x1ac2, 230), (0x1ac3, 0x1ac4, 220),
  (0x1ac5, 0x1ac9, 230), (0x1aca, 0x1aca, 220), (0x1acb, 0x1ace, 230), (0x1b34, 0x1b34, 7),
  (0x1b44, 0x1b44, 9), (0x1b6b, 0x1b6b, 230), (0x1b6c, 0x1b6c, 220), (0x1b6d, 0x1b73, 230),
  (0x1baa, 0x1bab, 9), (0x1be6, 0x1be6, 7), (0x1bf2, 0x1bf3, 9), (0x1c37, 0x1c37, 7),
  (0x1cd0, 0x1cd2, 230), (0x1cd4, 0x1cd4, 1), (0x1cd5, 0x1cd9, 220), (0x1cda, 0x1cdb, 230),
  (0x1cdc, 0x1cdf, 220), (0x1ce0, 0x1ce0, 230), (0x1ce2, 0x1ce8, 1), (0x1ced, 0x1ced, 220),
  (0x1cf4, 0x1cf4, 230), (0x1cf8, 0x1cf9, 230), (0x1dc0, 0x1dc1, 230), (0x1dc2, 0x1dc2, 220),
  (0x1dc3, 0x1dc9, 230), (0x1dca, 0x1dca, 220), (0x1dcb, 0x1dcc, 230), (0x1dcd, 0x1dcd, 234),
  (0x1dce, 0x1dce, 214), (0x1dcf, 0x1dcf, 220), (0x1dd0, 0x1dd0, 202), (0x1dd1, 0x1df5, 230),
  (0x1df6, 0x1df6, 232), (0x1df7, 0x1df8, 228), (0x1df9, 0x1df9, 220), (0x1dfa, 0x1dfa, 218),
  (0x1dfb, 0x1dfb, 230), (0x1dfc, 0x1dfc, 233), (0x1dfd, 0x1dfd, 220), (0x1dfe, 0x1dfe, 230),
  (0x1dff, 0x1dff, 220), (0x20d0, 0x20d1, 230), (0x20d2, 0x20d3, 1), (0x20d4, 0x20d7, 230),
  (0x20d8, 0x20da, 1), (0x20db, 0x20dc, 230), (0x20e1, 0x20e1, 230), (0x20e5, 0x20e6, 1),
  (0x20e7, 0x20e7, 230), (0x20e8, 0x20e8, 220), (0x20e9, 0x20e9, 230), (0x20ea, 0x20eb, 1),
  (0x20ec, 0x20ef, 220), (0x20f0, 0x20f0, 230), (0x2cef, 0x2cf1, 230), (0x2d7f, 0x2d7f, 9),
  (0x2de0, 0x2dff, 230), (0x302a, 0x302a, 218), (0x302b, 0x302b, 228), (0x302c, 0x302c, 232),
  (0x302d, 0x302d, 222), (0x302e, 0x302f, 224), (0x3099, 0x309a, 8), (0xa66f, 0xa66f, 230),
  (0xa674, 0xa67d, 230), (0xa69e, 0xa69f, 230), (0xa6f0, 0xa6f1, 230), (0xa806, 0xa806, 9),
  (0xa82c, 0xa82c, 9), (0xa8c4, 0xa8c4, 9), (0xa8e0, 0xa8f1, 230), (0xa92b, 0xa92d, 220),
  (0xa953, 0xa953, 9), (0xa9b3, 0xa9b3, 7), (0xa9c0, 0xa9c0, 9), (0xaab0, 0xaab0, 230),
  (0xaab2, 0xaab3, 230), (0xaab4, 0xaab4, 220), (0xaab7, 0xaab8, 230), (0xaabe, 0xaabf, 230),
  (0xaac1, 0xaac1, 230), (0xaaf6, 0xaaf6, 9), (0xabed, 0xabed, 9), (0xfb1e, 0xfb1e, 26),
  (0xfe20, 0xfe26, 230), (0xfe27, 0xfe2d, 220), (0xfe2e, 0xfe2f, 230), (0x101fd, 0x101fd, 220),
  (0x102e0, 0x102e0, 220), (0x10376, 0x1037a, 230), (0x10a0d, 0x10a0d, 220),
  (0x10a0f, 0x10a0f, 230), (0x10a38, 0x10a38, 230), (0x10a39, 0x10a39, 1), (0x10a3a, 0x10a3a, 220),
  (0x10a3f, 0x10a3f, 9), (0x10ae5, 0x10ae5, 230), (0x10ae6, 0x10ae6, 220), (0x10d24, 0x10d27, 230),
  (0x10d69, 0x10d6d, 230), (0x10eab, 0x10eac, 230), (0x10efd, 0x10eff, 220),
  (0x10f46, 0x10f47, 220), (0x10f48, 0x10f4a, 230), (0x10f4b, 0x10f4b, 220),
  (0x10f4c, 0x10f4c, 230), (0x10f4d, 0x10f50, 220), (0x10f82, 0x10f82, 230),
  (0x10f83, 0x10f83, 220), (0x10f84, 0x10f84, 230), (0x10f85, 0x10f85, 220), (0x11046, 0x11046, 9),
  (0x11070, 0x11070, 9), (0x1107f, 0x1107f, 9), (0x110b9, 0x110b9, 9), (0x110ba, 0x110ba, 7),
  (0x11100, 0x11102, 230), (0x11133, 0x11134, 9), (0x11173, 0x11173, 7), (0x111c0, 0x111c0, 9),
  (0x111ca, 0x111ca, 7), (0x11235, 0x11235, 9), (0x11236, 0x11236, 7), (0x112e9, 0x112e9, 7),
  (0x112ea, 0x112ea, 9), (0x1133b, 0x1133c, 7), (0x1134d, 0x1134d, 9), (0x11366, 0x1136c, 230),
  (0x11370, 0x11374, 230), (0x113ce, 0x113d0, 9), (0x113e1, 0x113e2, 230), (0x11442, 0x11442, 9),
  (0x11446, 0x11446, 7), (0x1145e, 0x1145e, 230), (0x114c2, 0x114c2, 9), (0x114c3, 0x114c3, 7),
  (0x115bf, 0x115bf, 9), (0x115c0, 0x115c0, 7), (0x1163f, 0x1163f, 9), (0x116b6, 0x116b6, 9),
  (0x116b7, 0x116b7, 7), (0x1172b, 0x1172b, 9), (0x11839, 0x11839, 9), (0x1183a, 0x1183a, 7),
  (0x1193d, 0x1193e, 9), (0x11943, 0x11943, 7), (0x119e0, 0x119e0, 9), (0x11a34, 0x11a34, 9),
  (0x11a47, 0x11a47, 9), (0x11a99, 0x11a99, 9), (0x11c3f, 0x11c3f, 9), (0x11d42, 0x11d42, 7),
  (0x11d44, 0x11d45, 9), (0x11d97, 0x11d97, 9), (0x11f41, 0x11f42, 9), (0x11f5a, 0x11f5a, 7),
  (0x1612f, 0x1612f, 9), (0x16af0, 0x16af4, 1), (0x16b30, 0x16b36, 230), (0x16ff0, 0x16ff1, 6),
  (0x1bc9e, 0x1bc9e, 1), (0x1d165, 0x1d166, 216), (0x1d167, 0x1d169, 1), (0x1d16d, 0x1d16d, 226),
  (0x1d16e, 0x1d172, 216), (0x1d17b, 0x1d182, 220), (0x1d185, 0x1d189, 230),
  (0x1d18a, 0x1d18b, 220), (0x1d1aa, 0x1d1ad, 230), (0x1d242, 0x1d244, 230),
  (0x1e000, 0x1e006, 230), (0x1e008, 0x1e018, 230), (0x1e01b, 0x1e021, 230),
  (0x1e023, 0x1e024, 230), (0x1e026, 0x1e02a, 230), (0x1e08f, 0x1e08f, 230),
  (0x1e130, 0x1e136, 230), (0x1e2ae, 0x1e2ae, 230), (0x1e2ec, 0x1e2ef, 230),
  (0x1e4ec, 0x1e4ed, 232), (0x1e4ee, 0x1e4ee, 220), (0x1e4ef, 0x1e4ef, 230),
  (0x1e5ee, 0x1e5ee, 230), (0x1e5ef, 0x1e5ef, 220), (0x1e8d0, 0x1e8d6, 220),
  (0x1e944, 0x1e949, 230), (0x1e94a, 0x1e94a, 7)]

/-- The class of a mark; other characters are of class zero. -/
def markClass (c : Char) : Nat :=
  match markClasses.find? fun r => r.1 ≤ c.toNat && c.toNat ≤ r.2.1 with
  | some r => r.2.2
  | none => 0

/-- Composed characters and their two parts: the code point of the first of some that follow each
other, and the parts of all of them one after the other. -/
def composites : List (Nat × String) := [
  (0xc0, "A\u0300A\u0301A\u0302A\u0303A\u0308A\u030a"),
  (0xc7, "C\u0327E\u0300E\u0301E\u0302E\u0308I\u0300I\u0301I\u0302I\u0308"),
  (0xd1, "N\u0303O\u0300O\u0301O\u0302O\u0303O\u0308"),
  (0xd9, "U\u0300U\u0301U\u0302U\u0308Y\u0301"),
  (0xe0, "a\u0300a\u0301a\u0302a\u0303a\u0308a\u030a"),
  (0xe7, "c\u0327e\u0300e\u0301e\u0302e\u0308i\u0300i\u0301i\u0302i\u0308"),
  (0xf1, "n\u0303o\u0300o\u0301o\u0302o\u0303o\u0308"),
  (0xf9, "u\u0300u\u0301u\u0302u\u0308y\u0301"),
  (0xff, "y\u0308A\u0304a\u0304A\u0306a\u0306A\u0328a\u0328C\u0301c\u0301C\u0302c\u0302"),
  (0x10a, "C\u0307c\u0307C\u030cc\u030cD\u030cd\u030c"),
  (0x112, "E\u0304e\u0304E\u0306e\u0306E\u0307e\u0307E\u0328e\u0328E\u030ce\u030cG\u0302"),
  (0x11d, "g\u0302G\u0306g\u0306G\u0307g\u0307G\u0327g\u0327H\u0302h\u0302"),
  (0x128, "I\u0303i\u0303I\u0304i\u0304I\u0306i\u0306I\u0328i\u0328I\u0307"),
  (0x134, "J\u0302j\u0302K\u0327k\u0327"), (0x139, "L\u0301l\u0301L\u0327l\u0327L\u030cl\u030c"),
  (0x143, "N\u0301n\u0301N\u0327n\u0327N\u030cn\u030c"),
  (0x14c, "O\u0304o\u0304O\u0306o\u0306O\u030bo\u030b"),
  (0x154, "R\u0301r\u0301R\u0327r\u0327R\u030cr\u030cS\u0301s\u0301S\u0302s\u0302S\u0327"),
  (0x15f, "s\u0327S\u030cs\u030cT\u0327t\u0327T\u030ct\u030c"),
  (0x168, "U\u0303u\u0303U\u0304u\u0304U\u0306u\u0306U\u030au\u030aU\u030bu\u030bU\u0328"),
  (0x173, "u\u0328W\u0302w\u0302Y\u0302y\u0302Y\u0308Z\u0301z\u0301Z\u0307z\u0307Z\u030c"),
  (0x17e, "z\u030c"), (0x1a0, "O\u031bo\u031b"), (0x1af, "U\u031bu\u031b"),
  (0x1cd, "A\u030ca\u030cI\u030ci\u030cO\u030co\u030cU\u030cu\u030cÜ\u0304ü\u0304Ü\u0301"),
  (0x1d8, "ü\u0301Ü\u030cü\u030cÜ\u0300ü\u0300"),
  (0x1de, "Ä\u0304ä\u0304Ȧ\u0304ȧ\u0304Æ\u0304æ\u0304"),
  (0x1e6, "G\u030cg\u030cK\u030ck\u030cO\u0328o\u0328Ǫ\u0304ǫ\u0304Ʒ\u030cʒ\u030cj\u030c"),
  (0x1f4, "G\u0301g\u0301"),
  (0x1f8, "N\u0300n\u0300Å\u0301å\u0301Æ\u0301æ\u0301Ø\u0301ø\u0301A\u030fa\u030fA\u0311"),
  (0x203, "a\u0311E\u030fe\u030fE\u0311e\u0311I\u030fi\u030fI\u0311i\u0311O\u030fo\u030f"),
  (0x20e, "O\u0311o\u0311R\u030fr\u030fR\u0311r\u0311U\u030fu\u030fU\u0311u\u0311S\u0326"),
  (0x219, "s\u0326T\u0326t\u0326"), (0x21e, "H\u030ch\u030c"),
  (0x226, "A\u0307a\u0307E\u0327e\u0327Ö\u0304ö\u0304Õ\u0304õ\u0304O\u0307o\u0307Ȯ\u0304"),
  (0x231, "ȯ\u0304Y\u0304y\u0304"), (0x385, "¨\u0301Α\u0301"), (0x388, "Ε\u0301Η\u0301Ι\u0301"),
  (0x38c, "Ο\u0301"), (0x38e, "Υ\u0301Ω\u0301ϊ\u0301"),
  (0x3aa, "Ι\u0308Υ\u0308α\u0301ε\u0301η\u0301ι\u0301ϋ\u0301"),
  (0x3ca, "ι\u0308υ\u0308ο\u0301υ\u0301ω\u0301"), (0x3d3, "ϒ\u0301ϒ\u0308"),
  (0x400, "Е\u0300Е\u0308"), (0x403, "Г\u0301"), (0x407, "І\u0308"),
  (0x40c, "К\u0301И\u0300У\u0306"), (0x419, "И\u0306"), (0x439, "и\u0306"),
  (0x450, "е\u0300е\u0308"), (0x453, "г\u0301"), (0x457, "і\u0308"),
  (0x45c, "к\u0301и\u0300у\u0306"), (0x476, "Ѵ\u030fѵ\u030f"), (0x4c1, "Ж\u0306ж\u0306"),
  (0x4d0, "А\u0306а\u0306А\u0308а\u0308"), (0x4d6, "Е\u0306е\u0306"),
  (0x4da, "Ә\u0308ә\u0308Ж\u0308ж\u0308З\u0308з\u0308"),
  (0x4e2, "И\u0304и\u0304И\u0308и\u0308О\u0308о\u0308"),
  (0x4ea, "Ө\u0308ө\u0308Э\u0308э\u0308У\u0304у\u0304У\u0308у\u0308У\u030bу\u030bЧ\u0308"),
  (0x4f5, "ч\u0308"), (0x4f8, "Ы\u0308ы\u0308"), (0x622, "ا\u0653ا\u0654و\u0654ا\u0655ي\u0654"),
  (0x6c0, "ە\u0654"), (0x6c2, "ہ\u0654"), (0x6d3, "ے\u0654"), (0x929, "न\u093c"),
  (0x931, "र\u093c"), (0x934, "ळ\u093c"), (0x9cb, "\u09c7\u09be\u09c7\u09d7"),
  (0xb48, "\u0b47\u0b56"), (0xb4b, "\u0b47\u0b3e\u0b47\u0b57"), (0xb94, "ஒ\u0bd7"),
  (0xbca, "\u0bc6\u0bbe\u0bc7\u0bbe\u0bc6\u0bd7"), (0xc48, "\u0c46\u0c56"), (0xcc0, "\u0cbf\u0cd5"),
  (0xcc7, "\u0cc6\u0cd5\u0cc6\u0cd6"), (0xcca, "\u0cc6\u0cc2\u0cca\u0cd5"),
  (0xd4a, "\u0d46\u0d3e\u0d47\u0d3e\u0d46\u0d57"), (0xdda, "\u0dd9\u0dca"),
  (0xddc, "\u0dd9\u0dcf\u0ddc\u0dca\u0dd9\u0ddf"), (0x1026, "ဥ\u102e"), (0x1b06, "ᬅ\u1b35"),
  (0x1b08, "ᬇ\u1b35"), (0x1b0a, "ᬉ\u1b35"), (0x1b0c, "ᬋ\u1b35"), (0x1b0e, "ᬍ\u1b35"),
  (0x1b12, "ᬑ\u1b35"), (0x1b3b, "\u1b3a\u1b35"), (0x1b3d, "\u1b3c\u1b35"),
  (0x1b40, "\u1b3e\u1b35\u1b3f\u1b35"), (0x1b43, "\u1b42\u1b35"),
  (0x1e00, "A\u0325a\u0325B\u0307b\u0307B\u0323b\u0323B\u0331b\u0331Ç\u0301ç\u0301D\u0307"),
  (0x1e0b, "d\u0307D\u0323d\u0323D\u0331d\u0331D\u0327d\u0327D\u032dd\u032dĒ\u0300ē\u0300"),
  (0x1e16, "Ē\u0301ē\u0301E\u032de\u032dE\u0330e\u0330Ȩ\u0306ȩ\u0306F\u0307f\u0307G\u0304"),
  (0x1e21, "g\u0304H\u0307h\u0307H\u0323h\u0323H\u0308h\u0308H\u0327h\u0327H\u032eh\u032e"),
  (0x1e2c, "I\u0330i\u0330Ï\u0301ï\u0301K\u0301k\u0301K\u0323k\u0323K\u0331k\u0331L\u0323"),
  (0x1e37, "l\u0323Ḷ\u0304ḷ\u0304L\u0331l\u0331L\u032dl\u032dM\u0301m\u0301M\u0307m\u0307"),
  (0x1e42, "M\u0323m\u0323N\u0307n\u0307N\u0323n\u0323N\u0331n\u0331N\u032dn\u032dÕ\u0301"),
  (0x1e4d, "õ\u0301Õ\u0308õ\u0308Ō\u0300ō\u0300Ō\u0301ō\u0301P\u0301p\u0301P\u0307p\u0307"),
  (0x1e58, "R\u0307r\u0307R\u0323r\u0323Ṛ\u0304ṛ\u0304R\u0331r\u0331S\u0307s\u0307S\u0323"),
  (0x1e63, "s\u0323Ś\u0307ś\u0307Š\u0307š\u0307Ṣ\u0307ṣ\u0307T\u0307t\u0307T\u0323t\u0323"),
  (0x1e6e, "T\u0331t\u0331T\u032dt\u032dU\u0324u\u0324U\u0330u\u0330U\u032du\u032dŨ\u0301"),
  (0x1e79, "ũ\u0301Ū\u0308ū\u0308V\u0303v\u0303V\u0323v\u0323W\u0300w\u0300W\u0301w\u0301"),
  (0x1e84, "W\u0308w\u0308W\u0307w\u0307W\u0323w\u0323X\u0307x\u0307X\u0308x\u0308Y\u0307"),
  (0x1e8f, "y\u0307Z\u0302z\u0302Z\u0323z\u0323Z\u0331z\u0331h\u0331t\u0308w\u030ay\u030a"),
  (0x1e9b, "ſ\u0307"),
  (0x1ea0, "A\u0323a\u0323A\u0309a\u0309Â\u0301â\u0301Â\u0300â\u0300Â\u0309â\u0309Â\u0303"),
  (0x1eab, "â\u0303Ạ\u0302ạ\u0302Ă\u0301ă\u0301Ă\u0300ă\u0300Ă\u0309ă\u0309Ă\u0303ă\u0303"),
  (0x1eb6, "Ạ\u0306ạ\u0306E\u0323e\u0323E\u0309e\u0309E\u0303e\u0303Ê\u0301ê\u0301Ê\u0300"),
  (0x1ec1, "ê\u0300Ê\u0309ê\u0309Ê\u0303ê\u0303Ẹ\u0302ẹ\u0302I\u0309i\u0309I\u0323i\u0323"),
  (0x1ecc, "O\u0323o\u0323O\u0309o\u0309Ô\u0301ô\u0301Ô\u0300ô\u0300Ô\u0309ô\u0309Ô\u0303"),
  (0x1ed7, "ô\u0303Ọ\u0302ọ\u0302Ơ\u0301ơ\u0301Ơ\u0300ơ\u0300Ơ\u0309ơ\u0309Ơ\u0303ơ\u0303"),
  (0x1ee2, "Ơ\u0323ơ\u0323U\u0323u\u0323U\u0309u\u0309Ư\u0301ư\u0301Ư\u0300ư\u0300Ư\u0309"),
  (0x1eed, "ư\u0309Ư\u0303ư\u0303Ư\u0323ư\u0323Y\u0300y\u0300Y\u0323y\u0323Y\u0309y\u0309"),
  (0x1ef8, "Y\u0303y\u0303"),
  (0x1f00, "α\u0313α\u0314ἀ\u0300ἁ\u0300ἀ\u0301ἁ\u0301ἀ\u0342ἁ\u0342Α\u0313Α\u0314Ἀ\u0300"),
  (0x1f0b, "Ἁ\u0300Ἀ\u0301Ἁ\u0301Ἀ\u0342Ἁ\u0342ε\u0313ε\u0314ἐ\u0300ἑ\u0300ἐ\u0301ἑ\u0301"),
  (0x1f18, "Ε\u0313Ε\u0314Ἐ\u0300Ἑ\u0300Ἐ\u0301Ἑ\u0301"),
  (0x1f20, "η\u0313η\u0314ἠ\u0300ἡ\u0300ἠ\u0301ἡ\u0301ἠ\u0342ἡ\u0342Η\u0313Η\u0314Ἠ\u0300"),
  (0x1f2b, "Ἡ\u0300Ἠ\u0301Ἡ\u0301Ἠ\u0342Ἡ\u0342ι\u0313ι\u0314ἰ\u0300ἱ\u0300ἰ\u0301ἱ\u0301"),
  (0x1f36, "ἰ\u0342ἱ\u0342Ι\u0313Ι\u0314Ἰ\u0300Ἱ\u0300Ἰ\u0301Ἱ\u0301Ἰ\u0342Ἱ\u0342ο\u0313"),
  (0x1f41, "ο\u0314ὀ\u0300ὁ\u0300ὀ\u0301ὁ\u0301"),
  (0x1f48, "Ο\u0313Ο\u0314Ὀ\u0300Ὁ\u0300Ὀ\u0301Ὁ\u0301"),
  (0x1f50, "υ\u0313υ\u0314ὐ\u0300ὑ\u0300ὐ\u0301ὑ\u0301ὐ\u0342ὑ\u0342"), (0x1f59, "Υ\u0314"),
  (0x1f5b, "Ὑ\u0300"), (0x1f5d, "Ὑ\u0301"),
  (0x1f5f, "Ὑ\u0342ω\u0313ω\u0314ὠ\u0300ὡ\u0300ὠ\u0301ὡ\u0301ὠ\u0342ὡ\u0342Ω\u0313Ω\u0314"),
  (0x1f6a, "Ὠ\u0300Ὡ\u0300Ὠ\u0301Ὡ\u0301Ὠ\u0342Ὡ\u0342α\u0300"), (0x1f72, "ε\u0300"),
  (0x1f74, "η\u0300"), (0x1f76, "ι\u0300"), (0x1f78, "ο\u0300"), (0x1f7a, "υ\u0300"),
  (0x1f7c, "ω\u0300"),
  (0x1f80, "ἀ\u0345ἁ\u0345ἂ\u0345ἃ\u0345ἄ\u0345ἅ\u0345ἆ\u0345ἇ\u0345Ἀ\u0345Ἁ\u0345Ἂ\u0345"),
  (0x1f8b, "Ἃ\u0345Ἄ\u0345Ἅ\u0345Ἆ\u0345Ἇ\u0345ἠ\u0345ἡ\u0345ἢ\u0345ἣ\u0345ἤ\u0345ἥ\u0345"),
  (0x1f96, "ἦ\u0345ἧ\u0345Ἠ\u0345Ἡ\u0345Ἢ\u0345Ἣ\u0345Ἤ\u0345Ἥ\u0345Ἦ\u0345Ἧ\u0345ὠ\u0345"),
  (0x1fa1, "ὡ\u0345ὢ\u0345ὣ\u0345ὤ\u0345ὥ\u0345ὦ\u0345ὧ\u0345Ὠ\u0345Ὡ\u0345Ὢ\u0345Ὣ\u0345"),
  (0x1fac, "Ὤ\u0345Ὥ\u0345Ὦ\u0345Ὧ\u0345α\u0306α\u0304ὰ\u0345α\u0345ά\u0345"),
  (0x1fb6, "α\u0342ᾶ\u0345Α\u0306Α\u0304Α\u0300"), (0x1fbc, "Α\u0345"),
  (0x1fc1, "¨\u0342ὴ\u0345η\u0345ή\u0345"), (0x1fc6, "η\u0342ῆ\u0345Ε\u0300"), (0x1fca, "Η\u0300"),
  (0x1fcc, "Η\u0345᾿\u0300᾿\u0301᾿\u0342ι\u0306ι\u0304ϊ\u0300"),
  (0x1fd6, "ι\u0342ϊ\u0342Ι\u0306Ι\u0304Ι\u0300"),
  (0x1fdd, "῾\u0300῾\u0301῾\u0342υ\u0306υ\u0304ϋ\u0300"),
  (0x1fe4, "ρ\u0313ρ\u0314υ\u0342ϋ\u0342Υ\u0306Υ\u0304Υ\u0300"), (0x1fec, "Ρ\u0314¨\u0300"),
  (0x1ff2, "ὼ\u0345ω\u0345ώ\u0345"), (0x1ff6, "ω\u0342ῶ\u0345Ο\u0300"), (0x1ffa, "Ω\u0300"),
  (0x1ffc, "Ω\u0345"), (0x219a, "←\u0338→\u0338"), (0x21ae, "↔\u0338"),
  (0x21cd, "⇐\u0338⇔\u0338⇒\u0338"), (0x2204, "∃\u0338"), (0x2209, "∈\u0338"), (0x220c, "∋\u0338"),
  (0x2224, "∣\u0338"), (0x2226, "∥\u0338"), (0x2241, "∼\u0338"), (0x2244, "≃\u0338"),
  (0x2247, "≅\u0338"), (0x2249, "≈\u0338"), (0x2260, "=\u0338"), (0x2262, "≡\u0338"),
  (0x226d, "≍\u0338<\u0338>\u0338≤\u0338≥\u0338"), (0x2274, "≲\u0338≳\u0338"),
  (0x2278, "≶\u0338≷\u0338"), (0x2280, "≺\u0338≻\u0338"), (0x2284, "⊂\u0338⊃\u0338"),
  (0x2288, "⊆\u0338⊇\u0338"), (0x22ac, "⊢\u0338⊨\u0338⊩\u0338⊫\u0338"),
  (0x22e0, "≼\u0338≽\u0338⊑\u0338⊒\u0338"), (0x22ea, "⊲\u0338⊳\u0338⊴\u0338⊵\u0338"),
  (0x304c, "か\u3099"), (0x304e, "き\u3099"), (0x3050, "く\u3099"), (0x3052, "け\u3099"),
  (0x3054, "こ\u3099"), (0x3056, "さ\u3099"), (0x3058, "し\u3099"), (0x305a, "す\u3099"),
  (0x305c, "せ\u3099"), (0x305e, "そ\u3099"), (0x3060, "た\u3099"), (0x3062, "ち\u3099"),
  (0x3065, "つ\u3099"), (0x3067, "て\u3099"), (0x3069, "と\u3099"), (0x3070, "は\u3099は\u309a"),
  (0x3073, "ひ\u3099ひ\u309a"), (0x3076, "ふ\u3099ふ\u309a"), (0x3079, "へ\u3099へ\u309a"),
  (0x307c, "ほ\u3099ほ\u309a"), (0x3094, "う\u3099"), (0x309e, "ゝ\u3099"), (0x30ac, "カ\u3099"),
  (0x30ae, "キ\u3099"), (0x30b0, "ク\u3099"), (0x30b2, "ケ\u3099"), (0x30b4, "コ\u3099"),
  (0x30b6, "サ\u3099"), (0x30b8, "シ\u3099"), (0x30ba, "ス\u3099"), (0x30bc, "セ\u3099"),
  (0x30be, "ソ\u3099"), (0x30c0, "タ\u3099"), (0x30c2, "チ\u3099"), (0x30c5, "ツ\u3099"),
  (0x30c7, "テ\u3099"), (0x30c9, "ト\u3099"), (0x30d0, "ハ\u3099ハ\u309a"), (0x30d3, "ヒ\u3099ヒ\u309a"),
  (0x30d6, "フ\u3099フ\u309a"), (0x30d9, "ヘ\u3099ヘ\u309a"), (0x30dc, "ホ\u3099ホ\u309a"),
  (0x30f4, "ウ\u3099"), (0x30f7, "ワ\u3099ヰ\u3099ヱ\u3099ヲ\u3099"), (0x30fe, "ヽ\u3099"),
  (0x105c9, "𐗒\u0307"), (0x105e4, "𐗚\u0307"), (0x1109a, "𑂚"), (0x1109c, "𑂜"), (0x110ab, "𑂫"),
  (0x1112e, "𑄮𑄯"), (0x1134b, "𑍋𑍌"), (0x11383, "𑎃"), (0x11385, "𑎅"), (0x1138e, "𑎎"),
  (0x11391, "𑎑"), (0x113c5, "𑏅"), (0x113c7, "𑏇𑏈"), (0x114bb, "𑒻𑒼"), (0x114be, "𑒾"),
  (0x115ba, "𑖺𑖻"), (0x11938, "𑤸"), (0x16121, "𖄡𖄢𖄣𖄤𖄥𖄦𖄧𖄨"), (0x16d68, "𖵨𖵩𖵪")]

/-- A composed character and its parts. -/
structure Composite where
  whole : Char
  first : Char
  second : Char
  deriving Repr, DecidableEq, Inhabited

/-- The composed characters from a code point on, of which the parts are given. -/
def compositesFrom (code : Nat) : List Char → List Composite
  | first :: second :: rest => ⟨Char.ofNat code, first, second⟩ :: compositesFrom (code + 1) rest
  | _ => []

/-- All composed characters, syllables of Hangul apart. -/
def allComposites : List Composite :=
  composites.flatMap fun (code, parts) => compositesFrom code parts.toList

/-- The parts of a syllable of Hangul: with a final consonant, the rest and that consonant; without
one, its consonant and its vowel. -/
def hangulParts? (c : Char) : Option (Char × Char) :=
  let n := c.toNat - 0xAC00
  if c.toNat < 0xAC00 ∨ 11172 ≤ n then none
  else if n % 28 ≠ 0 then
    some (Char.ofNat (0xAC00 + n / 28 * 28), Char.ofNat (0x11A7 + n % 28))
  else some (Char.ofNat (0x1100 + n / 588), Char.ofNat (0x1161 + n % 588 / 28))

/-- The syllable of Hangul that two parts make up. -/
def hangulWhole? (first second : Char) : Option Char :=
  let n := first.toNat - 0xAC00
  if 0x1100 ≤ first.toNat ∧ first.toNat < 0x1113 ∧ 0x1161 ≤ second.toNat ∧
      second.toNat < 0x1176 then
    some (Char.ofNat (0xAC00 + ((first.toNat - 0x1100) * 21 + (second.toNat - 0x1161)) * 28))
  else if 0xAC00 ≤ first.toNat ∧ n < 11172 ∧ n % 28 = 0 ∧ 0x11A7 < second.toNat ∧
      second.toNat < 0x11C3 then
    some (Char.ofNat (first.toNat + (second.toNat - 0x11A7)))
  else none

/-- The two parts of a composed character. -/
def parts? (c : Char) : Option (Char × Char) :=
  match hangulParts? c with
  | some parts => some parts
  | none => (allComposites.find? fun x => x.whole = c).map fun x => (x.first, x.second)

/-- The character that two parts make up. -/
def whole? (first second : Char) : Option Char :=
  match hangulWhole? first second with
  | some c => some c
  | none =>
    (allComposites.find? fun x => x.first = first && x.second = second).map Composite.whole

/-- A character taken apart, and its first part again, up to `depth` times. -/
def takeApart : Nat → Char → List Char
  | 0, c => [c]
  | depth + 1, c =>
    match parts? c with
    | some (first, second) => takeApart depth first ++ [second]
    | none => [c]

/-- How many marks a composed character has at most. -/
def deepest : Nat := 4

/-- A mark put into a reversed text behind the marks of higher class at its end. -/
def insertMark (c : Char) : List Char → List Char
  | [] => [c]
  | x :: rest => if markClass c < markClass x then x :: insertMark c rest else c :: x :: rest

/-- A text with its marks in the order of their classes. -/
def orderMarks (cs : List Char) : List Char :=
  (cs.foldl (fun done c => if markClass c = 0 then c :: done else insertMark c done) []).reverse

/-- Composes a text after a letter. The marks are those that stay apart from the letter, backwards;
a mark is taken into the letter unless one that stays apart is in its way. -/
def composeFrom (letter : Char) (marks : List Char) : List Char → List Char
  | [] => letter :: marks.reverse
  | c :: rest =>
    let free := match marks with
      | [] => true
      | last :: _ => markClass last < markClass c
    match if free then whole? letter c else none with
    | some whole => composeFrom whole marks rest
    | none =>
      if markClass c = 0 then letter :: marks.reverse ++ composeFrom c [] rest
      else composeFrom letter (c :: marks) rest

/-- A text in composed form. -/
def compose (cs : List Char) : List Char :=
  match orderMarks (cs.flatMap (takeApart deepest)) with
  | [] => []
  | c :: rest => composeFrom c [] rest

end NetworkTuning.Text
