import PrivacyScan.Text.Ranges

/-!
Case mappings outside ASCII. Lower case, of which more is proved than of the others, is a list of
entries; the others are in the notation of `PrivacyScan.Text.SpanTable.ofMap`.
-/

namespace PrivacyScan.Text

open SpanTable (block alternate single)

/-- The lower case of single characters. -/
def lowerEntries : List (Span × List Nat) :=
  [block 0xC0 0xD6 0xE0, block 0xD8 0xDE 0xF8, alternate 0x100 0x12E 0x101, single 0x130 0x69,
    alternate 0x132 0x136 0x133, alternate 0x139 0x147 0x13A, alternate 0x14A 0x176 0x14B,
    single 0x178 0xFF, alternate 0x179 0x17D 0x17A, single 0x181 0x253,
    alternate 0x182 0x184 0x183, single 0x186 0x254, single 0x187 0x188, block 0x189 0x18A 0x256,
    single 0x18B 0x18C, single 0x18E 0x1DD, single 0x18F 0x259, single 0x190 0x25B,
    single 0x191 0x192, single 0x193 0x260, single 0x194 0x263, single 0x196 0x269,
    single 0x197 0x268, single 0x198 0x199, single 0x19C 0x26F, single 0x19D 0x272,
    single 0x19F 0x275, alternate 0x1A0 0x1A4 0x1A1, single 0x1A6 0x280, single 0x1A7 0x1A8,
    single 0x1A9 0x283, single 0x1AC 0x1AD, single 0x1AE 0x288, single 0x1AF 0x1B0,
    block 0x1B1 0x1B2 0x28A, alternate 0x1B3 0x1B5 0x1B4, single 0x1B7 0x292, single 0x1B8 0x1B9,
    single 0x1BC 0x1BD, single 0x1C4 0x1C6, single 0x1C5 0x1C6, single 0x1C7 0x1C9,
    single 0x1C8 0x1C9, single 0x1CA 0x1CC, alternate 0x1CB 0x1DB 0x1CC,
    alternate 0x1DE 0x1EE 0x1DF, single 0x1F1 0x1F3, alternate 0x1F2 0x1F4 0x1F3,
    single 0x1F6 0x195, single 0x1F7 0x1BF, alternate 0x1F8 0x21E 0x1F9, single 0x220 0x19E,
    alternate 0x222 0x232 0x223, single 0x23A 0x2C65, single 0x23B 0x23C, single 0x23D 0x19A,
    single 0x23E 0x2C66, single 0x241 0x242, single 0x243 0x180, single 0x244 0x289,
    single 0x245 0x28C, alternate 0x246 0x24E 0x247, alternate 0x370 0x372 0x371,
    single 0x376 0x377, single 0x37F 0x3F3, single 0x386 0x3AC, block 0x388 0x38A 0x3AD,
    single 0x38C 0x3CC, block 0x38E 0x38F 0x3CD, block 0x391 0x3A1 0x3B1, block 0x3A3 0x3AB 0x3C3,
    single 0x3CF 0x3D7, alternate 0x3D8 0x3EE 0x3D9, single 0x3F4 0x3B8, single 0x3F7 0x3F8,
    single 0x3F9 0x3F2, single 0x3FA 0x3FB, block 0x3FD 0x3FF 0x37B, block 0x400 0x40F 0x450,
    block 0x410 0x42F 0x430, alternate 0x460 0x480 0x461, alternate 0x48A 0x4BE 0x48B,
    single 0x4C0 0x4CF, alternate 0x4C1 0x4CD 0x4C2, alternate 0x4D0 0x52E 0x4D1,
    block 0x531 0x556 0x561, block 0x10A0 0x10C5 0x2D00, single 0x10C7 0x2D27,
    single 0x10CD 0x2D2D, block 0x13A0 0x13EF 0xAB70, block 0x13F0 0x13F5 0x13F8,
    block 0x1C90 0x1CBA 0x10D0, block 0x1CBD 0x1CBF 0x10FD, alternate 0x1E00 0x1E94 0x1E01,
    single 0x1E9E 0xDF, alternate 0x1EA0 0x1EFE 0x1EA1, block 0x1F08 0x1F0F 0x1F00,
    block 0x1F18 0x1F1D 0x1F10, block 0x1F28 0x1F2F 0x1F20, block 0x1F38 0x1F3F 0x1F30,
    block 0x1F48 0x1F4D 0x1F40, alternate 0x1F59 0x1F5F 0x1F51, block 0x1F68 0x1F6F 0x1F60,
    block 0x1F88 0x1F8F 0x1F80, block 0x1F98 0x1F9F 0x1F90, block 0x1FA8 0x1FAF 0x1FA0,
    block 0x1FB8 0x1FB9 0x1FB0, block 0x1FBA 0x1FBB 0x1F70, single 0x1FBC 0x1FB3,
    block 0x1FC8 0x1FCB 0x1F72, single 0x1FCC 0x1FC3, block 0x1FD8 0x1FD9 0x1FD0,
    block 0x1FDA 0x1FDB 0x1F76, block 0x1FE8 0x1FE9 0x1FE0, block 0x1FEA 0x1FEB 0x1F7A,
    single 0x1FEC 0x1FE5, block 0x1FF8 0x1FF9 0x1F78, block 0x1FFA 0x1FFB 0x1F7C,
    single 0x1FFC 0x1FF3, single 0x2126 0x3C9, single 0x212A 0x6B, single 0x212B 0xE5,
    single 0x2132 0x214E, block 0x2160 0x216F 0x2170, single 0x2183 0x2184,
    block 0x24B6 0x24CF 0x24D0, block 0x2C00 0x2C2F 0x2C30, single 0x2C60 0x2C61,
    single 0x2C62 0x26B, single 0x2C63 0x1D7D, single 0x2C64 0x27D,
    alternate 0x2C67 0x2C6B 0x2C68, single 0x2C6D 0x251, single 0x2C6E 0x271, single 0x2C6F 0x250,
    single 0x2C70 0x252, single 0x2C72 0x2C73, single 0x2C75 0x2C76, block 0x2C7E 0x2C7F 0x23F,
    alternate 0x2C80 0x2CE2 0x2C81, alternate 0x2CEB 0x2CED 0x2CEC, single 0x2CF2 0x2CF3,
    alternate 0xA640 0xA66C 0xA641, alternate 0xA680 0xA69A 0xA681,
    alternate 0xA722 0xA72E 0xA723, alternate 0xA732 0xA76E 0xA733,
    alternate 0xA779 0xA77B 0xA77A, single 0xA77D 0x1D79, alternate 0xA77E 0xA786 0xA77F,
    single 0xA78B 0xA78C, single 0xA78D 0x265, alternate 0xA790 0xA792 0xA791,
    alternate 0xA796 0xA7A8 0xA797, single 0xA7AA 0x266, single 0xA7AB 0x25C, single 0xA7AC 0x261,
    single 0xA7AD 0x26C, single 0xA7AE 0x26A, single 0xA7B0 0x29E, single 0xA7B1 0x287,
    single 0xA7B2 0x29D, single 0xA7B3 0xAB53, alternate 0xA7B4 0xA7C2 0xA7B5,
    single 0xA7C4 0xA794, single 0xA7C5 0x282, single 0xA7C6 0x1D8E,
    alternate 0xA7C7 0xA7C9 0xA7C8, single 0xA7D0 0xA7D1, alternate 0xA7D6 0xA7D8 0xA7D7,
    single 0xA7F5 0xA7F6, block 0xFF21 0xFF3A 0xFF41, block 0x10400 0x10427 0x10428,
    block 0x104B0 0x104D3 0x104D8, block 0x10570 0x1057A 0x10597, block 0x1057C 0x1058A 0x105A3,
    block 0x1058C 0x10592 0x105B3, block 0x10594 0x10595 0x105BB, block 0x10C80 0x10CB2 0x10CC0,
    block 0x118A0 0x118BF 0x118C0, block 0x16E40 0x16E5F 0x16E60, block 0x1E900 0x1E921 0x1E922]

/-- The upper case of characters that are no lower case, or whose upper case is several
characters. -/
def upperExceptions : String :=
  "B5>39C DF>53+53 131>49 149>2BC+4E 17F>53 1C5>1C4,1C4 1C8>1C7,1C7 1CB>1CA,1CA 1F0>4A+30C
1F2>1F1,1F1 345>399 390>399+308+301 3B0>3A5+308+301 3C2>3A3 3D0>392,398 3D5>3A6,3A0 3F0>39A,3A1
3F5>395 587>535+552 1C80>412,414,41E,421,422,422,42A,462,A64A 1E96>48+331,54+308
1E98>57+30A,59+30A,41+2BE 1E9B>1E60 1F50>3A5+313 1F52>3A5+313+300 1F54>3A5+313+301 1F56>3A5+313+342
1F80>1F08+399,1F09+399,1F0A+399,1F0B+399,1F0C+399,1F0D+399,1F0E+399,1F0F+399,1F08+399,1F09+399
1F8A>1F0A+399,1F0B+399,1F0C+399,1F0D+399,1F0E+399,1F0F+399,1F28+399,1F29+399,1F2A+399,1F2B+399
1F94>1F2C+399,1F2D+399,1F2E+399,1F2F+399,1F28+399,1F29+399,1F2A+399,1F2B+399,1F2C+399,1F2D+399
1F9E>1F2E+399,1F2F+399,1F68+399,1F69+399,1F6A+399,1F6B+399,1F6C+399,1F6D+399,1F6E+399,1F6F+399
1FA8>1F68+399,1F69+399,1F6A+399,1F6B+399,1F6C+399,1F6D+399,1F6E+399,1F6F+399 1FB2>1FBA+399,391+399
1FB4>386+399 1FB6>391+342,391+342+399 1FBC>391+399 1FBE>399 1FC2>1FCA+399,397+399,389+399
1FC6>397+342 1FC7>397+342+399 1FCC>397+399 1FD2>399+308+300,399+308+301 1FD6>399+342,399+308+342
1FE2>3A5+308+300 1FE3>3A5+308+301,3A1+313 1FE6>3A5+342,3A5+308+342 1FF2>1FFA+399,3A9+399,38F+399
1FF6>3A9+342 1FF7>3A9+342+399 1FFC>3A9+399 FB00>46+46,46+49,46+4C,46+46+49,46+46+4C,53+54,53+54
FB13>544+546 FB14>544+535,544+53B,54E+546,544+53D"

/-- Title case where it differs from upper case. -/
def titleMap : String :=
  "DF>53+73 1C4>1C5,1C5,1C5,1C8,1C8,1C8,1CB,1CB,1CB 1F1>1F2,1F2,1F2 587>535+582 10D0>10D0-10FA
10FD>10FD-10FF 1F80>1F88-1F8F,1F88-1F8F,1F98-1F9F,1F98-1F9F,1FA8-1FAF,1FA8-1FAF 1FB2>1FBA+345,1FBC
1FB4>386+345 1FB7>391+342+345 1FBC>1FBC 1FC2>1FCA+345,1FCC,389+345 1FC7>397+342+345 1FCC>1FCC
1FF2>1FFA+345,1FFC,38F+345 1FF7>3A9+342+345 1FFC>1FFC FB00>46+66,46+69,46+6C,46+66+69,46+66+6C,53+74
FB06>53+74 FB13>544+576,544+565,544+56B,54E+576,544+56D"

end PrivacyScan.Text
