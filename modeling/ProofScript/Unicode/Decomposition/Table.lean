/-!
# The table of compatibility decompositions

The data for `Unicode.decompose`, in two parts. Most alphabets of styled letters
decompose by a constant shift of the code point: `shifts` lists them. All other
decompositions stand in `stretches`, one stretch of consecutive characters in a
line: the code point of the first character, and the text of their expansions. In
this text the expansions are separated by blanks and the code points of each by
`+`, in hexadecimal. The stretches stand in order.

Expansions are complete: no character of an expansion has one itself, and marks
stand in canonical order. Hangul syllables are left out, since their decompositions
are computed. The table is that of version 18 of the standard.
-/

namespace ProofScript.Unicode

/-- Consecutive characters that decompose into consecutive characters. The
numbers are code points. -/
structure Shift where
  first : Nat
  last : Nat
  target : Nat

/-- The ranges of characters that decompose by a shift. -/
def shifts : List Shift :=
  [
    ⟨0x1D33, 0x1D3A, 0x47⟩, ⟨0x1DAE, 0x1DB1, 0x272⟩, ⟨0x2074, 0x2079, 0x34⟩,
    ⟨0x2080, 0x2089, 0x30⟩, ⟨0x2096, 0x2099, 0x6B⟩, ⟨0x2135, 0x2138, 0x5D0⟩,
    ⟨0x2460, 0x2468, 0x31⟩, ⟨0x24B6, 0x24CF, 0x41⟩, ⟨0x24D0, 0x24E9, 0x61⟩,
    ⟨0x313A, 0x313F, 0x11B0⟩, ⟨0x3145, 0x314E, 0x1109⟩, ⟨0x314F, 0x3163, 0x1161⟩,
    ⟨0x3178, 0x317C, 0x112B⟩, ⟨0x3269, 0x326D, 0x110E⟩, ⟨0x32E4, 0x32E9, 0x30CA⟩,
    ⟨0x32EE, 0x32F2, 0x30DE⟩, ⟨0x32F5, 0x32FA, 0x30E8⟩, ⟨0x32FB, 0x32FE, 0x30EF⟩,
    ⟨0xFE41, 0xFE44, 0x300C⟩, ⟨0xFF01, 0xFF5E, 0x21⟩, ⟨0xFF85, 0xFF8A, 0x30CA⟩,
    ⟨0xFF8F, 0xFF93, 0x30DE⟩, ⟨0xFF96, 0xFF9B, 0x30E8⟩, ⟨0xFFAA, 0xFFAF, 0x11B0⟩,
    ⟨0xFFB5, 0xFFBE, 0x1109⟩, ⟨0xFFC2, 0xFFC7, 0x1161⟩, ⟨0xFFCA, 0xFFCF, 0x1167⟩,
    ⟨0xFFD2, 0xFFD7, 0x116D⟩, ⟨0xFFE9, 0xFFEC, 0x2190⟩, ⟨0x1CCD6, 0x1CCEF, 0x41⟩,
    ⟨0x1CCF0, 0x1CCF9, 0x30⟩, ⟨0x1D400, 0x1D419, 0x41⟩, ⟨0x1D41A, 0x1D433, 0x61⟩,
    ⟨0x1D434, 0x1D44D, 0x41⟩, ⟨0x1D44E, 0x1D454, 0x61⟩, ⟨0x1D456, 0x1D467, 0x69⟩,
    ⟨0x1D468, 0x1D481, 0x41⟩, ⟨0x1D482, 0x1D49B, 0x61⟩, ⟨0x1D4A9, 0x1D4AC, 0x4E⟩,
    ⟨0x1D4AE, 0x1D4B5, 0x53⟩, ⟨0x1D4B6, 0x1D4B9, 0x61⟩, ⟨0x1D4BD, 0x1D4C3, 0x68⟩,
    ⟨0x1D4C5, 0x1D4CF, 0x70⟩, ⟨0x1D4D0, 0x1D4E9, 0x41⟩, ⟨0x1D4EA, 0x1D503, 0x61⟩,
    ⟨0x1D507, 0x1D50A, 0x44⟩, ⟨0x1D50D, 0x1D514, 0x4A⟩, ⟨0x1D516, 0x1D51C, 0x53⟩,
    ⟨0x1D51E, 0x1D537, 0x61⟩, ⟨0x1D53B, 0x1D53E, 0x44⟩, ⟨0x1D540, 0x1D544, 0x49⟩,
    ⟨0x1D54A, 0x1D550, 0x53⟩, ⟨0x1D552, 0x1D56B, 0x61⟩, ⟨0x1D56C, 0x1D585, 0x41⟩,
    ⟨0x1D586, 0x1D59F, 0x61⟩, ⟨0x1D5A0, 0x1D5B9, 0x41⟩, ⟨0x1D5BA, 0x1D5D3, 0x61⟩,
    ⟨0x1D5D4, 0x1D5ED, 0x41⟩, ⟨0x1D5EE, 0x1D607, 0x61⟩, ⟨0x1D608, 0x1D621, 0x41⟩,
    ⟨0x1D622, 0x1D63B, 0x61⟩, ⟨0x1D63C, 0x1D655, 0x41⟩, ⟨0x1D656, 0x1D66F, 0x61⟩,
    ⟨0x1D670, 0x1D689, 0x41⟩, ⟨0x1D68A, 0x1D6A3, 0x61⟩, ⟨0x1D6A8, 0x1D6B8, 0x391⟩,
    ⟨0x1D6BA, 0x1D6C0, 0x3A3⟩, ⟨0x1D6C2, 0x1D6DA, 0x3B1⟩, ⟨0x1D6E2, 0x1D6F2, 0x391⟩,
    ⟨0x1D6F4, 0x1D6FA, 0x3A3⟩, ⟨0x1D6FC, 0x1D714, 0x3B1⟩, ⟨0x1D71C, 0x1D72C, 0x391⟩,
    ⟨0x1D72E, 0x1D734, 0x3A3⟩, ⟨0x1D736, 0x1D74E, 0x3B1⟩, ⟨0x1D756, 0x1D766, 0x391⟩,
    ⟨0x1D768, 0x1D76E, 0x3A3⟩, ⟨0x1D770, 0x1D788, 0x3B1⟩, ⟨0x1D790, 0x1D7A0, 0x391⟩,
    ⟨0x1D7A2, 0x1D7A8, 0x3A3⟩, ⟨0x1D7AA, 0x1D7C2, 0x3B1⟩, ⟨0x1D7CE, 0x1D7D7, 0x30⟩,
    ⟨0x1D7D8, 0x1D7E1, 0x30⟩, ⟨0x1D7E2, 0x1D7EB, 0x30⟩, ⟨0x1D7EC, 0x1D7F5, 0x30⟩,
    ⟨0x1D7F6, 0x1D7FF, 0x30⟩, ⟨0x1E030, 0x1E038, 0x430⟩, ⟨0x1E03C, 0x1E046, 0x43E⟩,
    ⟨0x1E051, 0x1E059, 0x430⟩, ⟨0x1E05F, 0x1E064, 0x443⟩, ⟨0x1EE0A, 0x1EE0D, 0x643⟩,
    ⟨0x1EE2A, 0x1EE2D, 0x643⟩, ⟨0x1F130, 0x1F149, 0x41⟩, ⟨0x1FBF0, 0x1FBF9, 0x30⟩]

/-- Consecutive characters with the text of their expansions. -/
structure Stretch where
  first : Nat
  expansions : String

/-- The remaining decompositions, in the order of their characters. -/
def stretches : List Stretch :=
  [
    ⟨0xA0, "20"⟩,
    ⟨0xA8, "20+308"⟩,
    ⟨0xAA, "61"⟩,
    ⟨0xAF, "20+304"⟩,
    ⟨0xB2, "32 33 20+301 3BC"⟩,
    ⟨0xB8, "20+327 31 6F"⟩,
    ⟨0xBC, "31+2044+34 31+2044+32 33+2044+34"⟩,
    ⟨0xC0, "41+300 41+301 41+302 41+303 41+308 41+30A"⟩,
    ⟨0xC7, "43+327 45+300 45+301 45+302 45+308 49+300 49+301 49+302 49+308"⟩,
    ⟨0xD1, "4E+303 4F+300 4F+301 4F+302 4F+303 4F+308"⟩,
    ⟨0xD9, "55+300 55+301 55+302 55+308 59+301"⟩,
    ⟨0xE0, "61+300 61+301 61+302 61+303 61+308 61+30A"⟩,
    ⟨0xE7, "63+327 65+300 65+301 65+302 65+308 69+300 69+301 69+302 69+308"⟩,
    ⟨0xF1, "6E+303 6F+300 6F+301 6F+302 6F+303 6F+308"⟩,
    ⟨0xF9, "75+300 75+301 75+302 75+308 79+301"⟩,
    ⟨0xFF, "79+308 41+304 61+304 41+306 61+306 41+328 61+328 43+301 63+301 43+302 63+302"⟩,
    ⟨0x10A, "43+307 63+307 43+30C 63+30C 44+30C 64+30C"⟩,
    ⟨0x112, "45+304 65+304 45+306 65+306 45+307 65+307 45+328 65+328 45+30C 65+30C 47+302"⟩,
    ⟨0x11D, "67+302 47+306 67+306 47+307 67+307 47+327 67+327 48+302 68+302"⟩,
    ⟨0x128, "49+303 69+303 49+304 69+304 49+306 69+306 49+328 69+328 49+307"⟩,
    ⟨0x132, "49+4A 69+6A 4A+302 6A+302 4B+327 6B+327"⟩,
    ⟨0x139, "4C+301 6C+301 4C+327 6C+327 4C+30C 6C+30C 4C+B7 6C+B7"⟩,
    ⟨0x143, "4E+301 6E+301 4E+327 6E+327 4E+30C 6E+30C 2BC+6E"⟩,
    ⟨0x14C, "4F+304 6F+304 4F+306 6F+306 4F+30B 6F+30B"⟩,
    ⟨0x154, "52+301 72+301 52+327 72+327 52+30C 72+30C 53+301 73+301 53+302 73+302 53+327"⟩,
    ⟨0x15F, "73+327 53+30C 73+30C 54+327 74+327 54+30C 74+30C"⟩,
    ⟨0x168, "55+303 75+303 55+304 75+304 55+306 75+306 55+30A 75+30A 55+30B 75+30B 55+328"⟩,
    ⟨0x173, "75+328 57+302 77+302 59+302 79+302 59+308 5A+301 7A+301 5A+307 7A+307 5A+30C"⟩,
    ⟨0x17E, "7A+30C 73"⟩,
    ⟨0x1A0, "4F+31B 6F+31B"⟩,
    ⟨0x1AF, "55+31B 75+31B"⟩,
    ⟨0x1C4, "44+5A+30C 44+7A+30C 64+7A+30C 4C+4A 4C+6A 6C+6A 4E+4A 4E+6A 6E+6A 41+30C 61+30C"⟩,
    ⟨0x1CF, "49+30C 69+30C 4F+30C 6F+30C 55+30C 75+30C 55+308+304 75+308+304 55+308+301"⟩,
    ⟨0x1D8, "75+308+301 55+308+30C 75+308+30C 55+308+300 75+308+300"⟩,
    ⟨0x1DE, "41+308+304 61+308+304 41+307+304 61+307+304 C6+304 E6+304"⟩,
    ⟨0x1E6, "47+30C 67+30C 4B+30C 6B+30C 4F+328 6F+328 4F+328+304 6F+328+304 1B7+30C 292+30C"⟩,
    ⟨0x1F0, "6A+30C 44+5A 44+7A 64+7A 47+301 67+301"⟩,
    ⟨0x1F8, "4E+300 6E+300 41+30A+301 61+30A+301 C6+301 E6+301 D8+301 F8+301 41+30F 61+30F"⟩,
    ⟨0x202, "41+311 61+311 45+30F 65+30F 45+311 65+311 49+30F 69+30F 49+311 69+311 4F+30F"⟩,
    ⟨0x20D, "6F+30F 4F+311 6F+311 52+30F 72+30F 52+311 72+311 55+30F 75+30F 55+311 75+311"⟩,
    ⟨0x218, "53+326 73+326 54+326 74+326"⟩,
    ⟨0x21E, "48+30C 68+30C"⟩,
    ⟨0x226, "41+307 61+307 45+327 65+327 4F+308+304 6F+308+304 4F+303+304 6F+303+304 4F+307"⟩,
    ⟨0x22F, "6F+307 4F+307+304 6F+307+304 59+304 79+304"⟩,
    ⟨0x2B0, "68 266 6A 72 279 27B 281 77 79"⟩,
    ⟨0x2D8, "20+306 20+307 20+30A 20+328 20+303 20+30B"⟩,
    ⟨0x2E0, "263 6C 73 78 295"⟩,
    ⟨0x340, "300 301"⟩,
    ⟨0x343, "313 308+301"⟩,
    ⟨0x374, "2B9"⟩,
    ⟨0x37A, "20+345"⟩,
    ⟨0x37E, "3B"⟩,
    ⟨0x384, "20+301 20+308+301 391+301 B7 395+301 397+301 399+301"⟩,
    ⟨0x38C, "39F+301"⟩,
    ⟨0x38E, "3A5+301 3A9+301 3B9+308+301"⟩,
    ⟨0x3AA, "399+308 3A5+308 3B1+301 3B5+301 3B7+301 3B9+301 3C5+308+301"⟩,
    ⟨0x3CA, "3B9+308 3C5+308 3BF+301 3C5+301 3C9+301"⟩,
    ⟨0x3D0, "3B2 3B8 3A5 3A5+301 3A5+308 3C6 3C0"⟩,
    ⟨0x3F0, "3BA 3C1 3C2"⟩,
    ⟨0x3F4, "398 3B5"⟩,
    ⟨0x3F9, "3A3"⟩,
    ⟨0x400, "415+300 415+308"⟩,
    ⟨0x403, "413+301"⟩,
    ⟨0x407, "406+308"⟩,
    ⟨0x40C, "41A+301 418+300 423+306"⟩,
    ⟨0x419, "418+306"⟩,
    ⟨0x439, "438+306"⟩,
    ⟨0x450, "435+300 435+308"⟩,
    ⟨0x453, "433+301"⟩,
    ⟨0x457, "456+308"⟩,
    ⟨0x45C, "43A+301 438+300 443+306"⟩,
    ⟨0x476, "474+30F 475+30F"⟩,
    ⟨0x4C1, "416+306 436+306"⟩,
    ⟨0x4D0, "410+306 430+306 410+308 430+308"⟩,
    ⟨0x4D6, "415+306 435+306"⟩,
    ⟨0x4DA, "4D8+308 4D9+308 416+308 436+308 417+308 437+308"⟩,
    ⟨0x4E2, "418+304 438+304 418+308 438+308 41E+308 43E+308"⟩,
    ⟨0x4EA, "4E8+308 4E9+308 42D+308 44D+308 423+304 443+304 423+308 443+308 423+30B 443+30B"⟩,
    ⟨0x4F4, "427+308 447+308"⟩,
    ⟨0x4F8, "42B+308 44B+308"⟩,
    ⟨0x558, "567"⟩,
    ⟨0x587, "565+582"⟩,
    ⟨0x58B, "56B 575"⟩,
    ⟨0x622, "627+653 627+654 648+654 627+655 64A+654"⟩,
    ⟨0x675, "627+674 648+674 6C7+674 64A+674"⟩,
    ⟨0x6C0, "6D5+654"⟩,
    ⟨0x6C2, "6C1+654"⟩,
    ⟨0x6D3, "6D2+654"⟩,
    ⟨0x929, "928+93C"⟩,
    ⟨0x931, "930+93C"⟩,
    ⟨0x934, "933+93C"⟩,
    ⟨0x958, "915+93C 916+93C 917+93C 91C+93C 921+93C 922+93C 92B+93C 92F+93C"⟩,
    ⟨0x9CB, "9C7+9BE 9C7+9D7"⟩,
    ⟨0x9DC, "9A1+9BC 9A2+9BC"⟩,
    ⟨0x9DF, "9AF+9BC"⟩,
    ⟨0xA33, "A32+A3C"⟩,
    ⟨0xA36, "A38+A3C"⟩,
    ⟨0xA59, "A16+A3C A17+A3C A1C+A3C"⟩,
    ⟨0xA5E, "A2B+A3C"⟩,
    ⟨0xB48, "B47+B56"⟩,
    ⟨0xB4B, "B47+B3E B47+B57"⟩,
    ⟨0xB5C, "B21+B3C B22+B3C"⟩,
    ⟨0xB94, "B92+BD7"⟩,
    ⟨0xBCA, "BC6+BBE BC7+BBE BC6+BD7"⟩,
    ⟨0xC48, "C46+C56"⟩,
    ⟨0xCC0, "CBF+CD5"⟩,
    ⟨0xCC7, "CC6+CD5 CC6+CD6"⟩,
    ⟨0xCCA, "CC6+CC2 CC6+CC2+CD5"⟩,
    ⟨0xD4A, "D46+D3E D47+D3E D46+D57"⟩,
    ⟨0xDDA, "DD9+DCA"⟩,
    ⟨0xDDC, "DD9+DCF DD9+DCF+DCA DD9+DDF"⟩,
    ⟨0xE33, "E4D+E32"⟩,
    ⟨0xEB3, "ECD+EB2"⟩,
    ⟨0xEDC, "EAB+E99 EAB+EA1"⟩,
    ⟨0xF0C, "F0B"⟩,
    ⟨0xF43, "F42+FB7"⟩,
    ⟨0xF4D, "F4C+FB7"⟩,
    ⟨0xF52, "F51+FB7"⟩,
    ⟨0xF57, "F56+FB7"⟩,
    ⟨0xF5C, "F5B+FB7"⟩,
    ⟨0xF69, "F40+FB5"⟩,
    ⟨0xF73, "F71+F72"⟩,
    ⟨0xF75, "F71+F74 FB2+F80 FB2+F71+F80 FB3+F80 FB3+F71+F80"⟩,
    ⟨0xF81, "F71+F80"⟩,
    ⟨0xF93, "F92+FB7"⟩,
    ⟨0xF9D, "F9C+FB7"⟩,
    ⟨0xFA2, "FA1+FB7"⟩,
    ⟨0xFA7, "FA6+FB7"⟩,
    ⟨0xFAC, "FAB+FB7"⟩,
    ⟨0xFB9, "F90+FB5"⟩,
    ⟨0x1026, "1025+102E"⟩,
    ⟨0x10FC, "10DC"⟩,
    ⟨0x1B06, "1B05+1B35"⟩,
    ⟨0x1B08, "1B07+1B35"⟩,
    ⟨0x1B0A, "1B09+1B35"⟩,
    ⟨0x1B0C, "1B0B+1B35"⟩,
    ⟨0x1B0E, "1B0D+1B35"⟩,
    ⟨0x1B12, "1B11+1B35"⟩,
    ⟨0x1B3B, "1B3A+1B35"⟩,
    ⟨0x1B3D, "1B3C+1B35"⟩,
    ⟨0x1B40, "1B3E+1B35 1B3F+1B35"⟩,
    ⟨0x1B43, "1B42+1B35"⟩,
    ⟨0x1D2C, "41 C6 42"⟩,
    ⟨0x1D30, "44 45 18E"⟩,
    ⟨0x1D3C, "4F 222 50 52 54 55 57 61 250 251 1D02 62 64 65 259 25B 25C 67"⟩,
    ⟨0x1D4F, "6B 6D 14B 6F 254 1D16 1D17 70 74 75 1D1D 26F 76 1D25 3B2 3B3 3B4 3C6 3C7 69 72"⟩,
    ⟨0x1D64, "75 76 3B2 3B3 3C1 3C6 3C7"⟩,
    ⟨0x1D78, "43D"⟩,
    ⟨0x1D9B, "252 63 255 F0 25C 66 25F 261 265 268 269 26A 1D7B 29D 26D 1D85 29F 271 270"⟩,
    ⟨0x1DB2, "278 282 283 1AB 289 28A 1D1C 28B 28C 7A 290 291 292 3B8"⟩,
    ⟨0x1E00, "41+325 61+325 42+307 62+307 42+323 62+323 42+331 62+331 43+327+301 63+327+301"⟩,
    ⟨0x1E0A, "44+307 64+307 44+323 64+323 44+331 64+331 44+327 64+327 44+32D 64+32D 45+304+300"⟩,
    ⟨0x1E15, "65+304+300 45+304+301 65+304+301 45+32D 65+32D 45+330 65+330 45+327+306"⟩,
    ⟨0x1E1D, "65+327+306 46+307 66+307 47+304 67+304 48+307 68+307 48+323 68+323 48+308 68+308"⟩,
    ⟨0x1E28, "48+327 68+327 48+32E 68+32E 49+330 69+330 49+308+301 69+308+301 4B+301 6B+301"⟩,
    ⟨0x1E32, "4B+323 6B+323 4B+331 6B+331 4C+323 6C+323 4C+323+304 6C+323+304 4C+331 6C+331"⟩,
    ⟨0x1E3C, "4C+32D 6C+32D 4D+301 6D+301 4D+307 6D+307 4D+323 6D+323 4E+307 6E+307 4E+323"⟩,
    ⟨0x1E47, "6E+323 4E+331 6E+331 4E+32D 6E+32D 4F+303+301 6F+303+301 4F+303+308 6F+303+308"⟩,
    ⟨0x1E50, "4F+304+300 6F+304+300 4F+304+301 6F+304+301 50+301 70+301 50+307 70+307 52+307"⟩,
    ⟨0x1E59, "72+307 52+323 72+323 52+323+304 72+323+304 52+331 72+331 53+307 73+307 53+323"⟩,
    ⟨0x1E63, "73+323 53+301+307 73+301+307 53+30C+307 73+30C+307 53+323+307 73+323+307 54+307"⟩,
    ⟨0x1E6B, "74+307 54+323 74+323 54+331 74+331 54+32D 74+32D 55+324 75+324 55+330 75+330"⟩,
    ⟨0x1E76, "55+32D 75+32D 55+303+301 75+303+301 55+304+308 75+304+308 56+303 76+303 56+323"⟩,
    ⟨0x1E7F, "76+323 57+300 77+300 57+301 77+301 57+308 77+308 57+307 77+307 57+323 77+323"⟩,
    ⟨0x1E8A, "58+307 78+307 58+308 78+308 59+307 79+307 5A+302 7A+302 5A+323 7A+323 5A+331"⟩,
    ⟨0x1E95, "7A+331 68+331 74+308 77+30A 79+30A 61+2BE 73+307"⟩,
    ⟨0x1EA0, "41+323 61+323 41+309 61+309 41+302+301 61+302+301 41+302+300 61+302+300"⟩,
    ⟨0x1EA8, "41+302+309 61+302+309 41+302+303 61+302+303 41+323+302 61+323+302 41+306+301"⟩,
    ⟨0x1EAF, "61+306+301 41+306+300 61+306+300 41+306+309 61+306+309 41+306+303 61+306+303"⟩,
    ⟨0x1EB6, "41+323+306 61+323+306 45+323 65+323 45+309 65+309 45+303 65+303 45+302+301"⟩,
    ⟨0x1EBF, "65+302+301 45+302+300 65+302+300 45+302+309 65+302+309 45+302+303 65+302+303"⟩,
    ⟨0x1EC6, "45+323+302 65+323+302 49+309 69+309 49+323 69+323 4F+323 6F+323 4F+309 6F+309"⟩,
    ⟨0x1ED0, "4F+302+301 6F+302+301 4F+302+300 6F+302+300 4F+302+309 6F+302+309 4F+302+303"⟩,
    ⟨0x1ED7, "6F+302+303 4F+323+302 6F+323+302 4F+31B+301 6F+31B+301 4F+31B+300 6F+31B+300"⟩,
    ⟨0x1EDE, "4F+31B+309 6F+31B+309 4F+31B+303 6F+31B+303 4F+31B+323 6F+31B+323 55+323 75+323"⟩,
    ⟨0x1EE6, "55+309 75+309 55+31B+301 75+31B+301 55+31B+300 75+31B+300 55+31B+309 75+31B+309"⟩,
    ⟨0x1EEE, "55+31B+303 75+31B+303 55+31B+323 75+31B+323 59+300 79+300 59+323 79+323 59+309"⟩,
    ⟨0x1EF7, "79+309 59+303 79+303"⟩,
    ⟨0x1F00, "3B1+313 3B1+314 3B1+313+300 3B1+314+300 3B1+313+301 3B1+314+301 3B1+313+342"⟩,
    ⟨0x1F07, "3B1+314+342 391+313 391+314 391+313+300 391+314+300 391+313+301 391+314+301"⟩,
    ⟨0x1F0E, "391+313+342 391+314+342 3B5+313 3B5+314 3B5+313+300 3B5+314+300 3B5+313+301"⟩,
    ⟨0x1F15, "3B5+314+301"⟩,
    ⟨0x1F18, "395+313 395+314 395+313+300 395+314+300 395+313+301 395+314+301"⟩,
    ⟨0x1F20, "3B7+313 3B7+314 3B7+313+300 3B7+314+300 3B7+313+301 3B7+314+301 3B7+313+342"⟩,
    ⟨0x1F27, "3B7+314+342 397+313 397+314 397+313+300 397+314+300 397+313+301 397+314+301"⟩,
    ⟨0x1F2E, "397+313+342 397+314+342 3B9+313 3B9+314 3B9+313+300 3B9+314+300 3B9+313+301"⟩,
    ⟨0x1F35, "3B9+314+301 3B9+313+342 3B9+314+342 399+313 399+314 399+313+300 399+314+300"⟩,
    ⟨0x1F3C, "399+313+301 399+314+301 399+313+342 399+314+342 3BF+313 3BF+314 3BF+313+300"⟩,
    ⟨0x1F43, "3BF+314+300 3BF+313+301 3BF+314+301"⟩,
    ⟨0x1F48, "39F+313 39F+314 39F+313+300 39F+314+300 39F+313+301 39F+314+301"⟩,
    ⟨0x1F50, "3C5+313 3C5+314 3C5+313+300 3C5+314+300 3C5+313+301 3C5+314+301 3C5+313+342"⟩,
    ⟨0x1F57, "3C5+314+342"⟩,
    ⟨0x1F59, "3A5+314"⟩,
    ⟨0x1F5B, "3A5+314+300"⟩,
    ⟨0x1F5D, "3A5+314+301"⟩,
    ⟨0x1F5F, "3A5+314+342 3C9+313 3C9+314 3C9+313+300 3C9+314+300 3C9+313+301 3C9+314+301"⟩,
    ⟨0x1F66, "3C9+313+342 3C9+314+342 3A9+313 3A9+314 3A9+313+300 3A9+314+300 3A9+313+301"⟩,
    ⟨0x1F6D, "3A9+314+301 3A9+313+342 3A9+314+342 3B1+300 3B1+301 3B5+300 3B5+301 3B7+300"⟩,
    ⟨0x1F75, "3B7+301 3B9+300 3B9+301 3BF+300 3BF+301 3C5+300 3C5+301 3C9+300 3C9+301"⟩,
    ⟨0x1F80, "3B1+313+345 3B1+314+345 3B1+313+300+345 3B1+314+300+345 3B1+313+301+345"⟩,
    ⟨0x1F85, "3B1+314+301+345 3B1+313+342+345 3B1+314+342+345 391+313+345 391+314+345"⟩,
    ⟨0x1F8A, "391+313+300+345 391+314+300+345 391+313+301+345 391+314+301+345 391+313+342+345"⟩,
    ⟨0x1F8F, "391+314+342+345 3B7+313+345 3B7+314+345 3B7+313+300+345 3B7+314+300+345"⟩,
    ⟨0x1F94, "3B7+313+301+345 3B7+314+301+345 3B7+313+342+345 3B7+314+342+345 397+313+345"⟩,
    ⟨0x1F99, "397+314+345 397+313+300+345 397+314+300+345 397+313+301+345 397+314+301+345"⟩,
    ⟨0x1F9E, "397+313+342+345 397+314+342+345 3C9+313+345 3C9+314+345 3C9+313+300+345"⟩,
    ⟨0x1FA3, "3C9+314+300+345 3C9+313+301+345 3C9+314+301+345 3C9+313+342+345 3C9+314+342+345"⟩,
    ⟨0x1FA8, "3A9+313+345 3A9+314+345 3A9+313+300+345 3A9+314+300+345 3A9+313+301+345"⟩,
    ⟨0x1FAD, "3A9+314+301+345 3A9+313+342+345 3A9+314+342+345 3B1+306 3B1+304 3B1+300+345"⟩,
    ⟨0x1FB3, "3B1+345 3B1+301+345"⟩,
    ⟨0x1FB6, "3B1+342 3B1+342+345 391+306 391+304 391+300 391+301 391+345 20+313 3B9 20+313"⟩,
    ⟨0x1FC0, "20+342 20+308+342 3B7+300+345 3B7+345 3B7+301+345"⟩,
    ⟨0x1FC6, "3B7+342 3B7+342+345 395+300 395+301 397+300 397+301 397+345 20+313+300"⟩,
    ⟨0x1FCE, "20+313+301 20+313+342 3B9+306 3B9+304 3B9+308+300 3B9+308+301"⟩,
    ⟨0x1FD6, "3B9+342 3B9+308+342 399+306 399+304 399+300 399+301"⟩,
    ⟨0x1FDD, "20+314+300 20+314+301 20+314+342 3C5+306 3C5+304 3C5+308+300 3C5+308+301 3C1+313"⟩,
    ⟨0x1FE5, "3C1+314 3C5+342 3C5+308+342 3A5+306 3A5+304 3A5+300 3A5+301 3A1+314 20+308+300"⟩,
    ⟨0x1FEE, "20+308+301 60"⟩,
    ⟨0x1FF2, "3C9+300+345 3C9+345 3C9+301+345"⟩,
    ⟨0x1FF6, "3C9+342 3C9+342+345 39F+300 39F+301 3A9+300 3A9+301 3A9+345 20+301 20+314"⟩,
    ⟨0x2000, "20 20 20 20 20 20 20 20 20 20 20"⟩,
    ⟨0x2011, "2010"⟩,
    ⟨0x2017, "20+333"⟩,
    ⟨0x2024, "2E 2E+2E 2E+2E+2E"⟩,
    ⟨0x202F, "20"⟩,
    ⟨0x2033, "2032+2032 2032+2032+2032"⟩,
    ⟨0x2036, "2035+2035 2035+2035+2035"⟩,
    ⟨0x203C, "21+21"⟩,
    ⟨0x203E, "20+305"⟩,
    ⟨0x2047, "3F+3F 3F+21 21+3F"⟩,
    ⟨0x2057, "2032+2032+2032+2032"⟩,
    ⟨0x205F, "20"⟩,
    ⟨0x2070, "30 69"⟩,
    ⟨0x207A, "2B 2212 3D 28 29 6E"⟩,
    ⟨0x208A, "2B 2212 3D 28 29"⟩,
    ⟨0x2090, "61 65 6F 78 259 68"⟩,
    ⟨0x209A, "70 73 74 77 79 7A"⟩,
    ⟨0x20A8, "52+73"⟩,
    ⟨0x2100, "61+2F+63 61+2F+73 43 B0+43"⟩,
    ⟨0x2105, "63+2F+6F 63+2F+75 190"⟩,
    ⟨0x2109, "B0+46 67 48 48 48 68 127 49 49 4C 6C"⟩,
    ⟨0x2115, "4E 4E+6F"⟩,
    ⟨0x2119, "50 51 52 52 52"⟩,
    ⟨0x2120, "53+4D 54+45+4C 54+4D"⟩,
    ⟨0x2124, "5A"⟩,
    ⟨0x2126, "3A9"⟩,
    ⟨0x2128, "5A"⟩,
    ⟨0x212A, "4B 41+30A 42 43"⟩,
    ⟨0x212F, "65 45 46"⟩,
    ⟨0x2133, "4D 6F"⟩,
    ⟨0x2139, "69"⟩,
    ⟨0x213B, "46+41+58 3C0 3B3 393 3A0 2211"⟩,
    ⟨0x2145, "44 64 65 69 6A"⟩,
    ⟨0x2150, "31+2044+37 31+2044+39 31+2044+31+30 31+2044+33 32+2044+33 31+2044+35 32+2044+35"⟩,
    ⟨0x2157, "33+2044+35 34+2044+35 31+2044+36 35+2044+36 31+2044+38 33+2044+38 35+2044+38"⟩,
    ⟨0x215E, "37+2044+38 31+2044 49 49+49 49+49+49 49+56 56 56+49 56+49+49 56+49+49+49 49+58"⟩,
    ⟨0x2169, "58 58+49 58+49+49 4C 43 44 4D 69 69+69 69+69+69 69+76 76 76+69 76+69+69"⟩,
    ⟨0x2177, "76+69+69+69 69+78 78 78+69 78+69+69 6C 63 64 6D"⟩,
    ⟨0x2189, "30+2044+33"⟩,
    ⟨0x219A, "2190+338 2192+338"⟩,
    ⟨0x21AE, "2194+338"⟩,
    ⟨0x21CD, "21D0+338 21D4+338 21D2+338"⟩,
    ⟨0x2204, "2203+338"⟩,
    ⟨0x2209, "2208+338"⟩,
    ⟨0x220C, "220B+338"⟩,
    ⟨0x2224, "2223+338"⟩,
    ⟨0x2226, "2225+338"⟩,
    ⟨0x222C, "222B+222B 222B+222B+222B"⟩,
    ⟨0x222F, "222E+222E 222E+222E+222E"⟩,
    ⟨0x2241, "223C+338"⟩,
    ⟨0x2244, "2243+338"⟩,
    ⟨0x2247, "2245+338"⟩,
    ⟨0x2249, "2248+338"⟩,
    ⟨0x2260, "3D+338"⟩,
    ⟨0x2262, "2261+338"⟩,
    ⟨0x226D, "224D+338 3C+338 3E+338 2264+338 2265+338"⟩,
    ⟨0x2274, "2272+338 2273+338"⟩,
    ⟨0x2278, "2276+338 2277+338"⟩,
    ⟨0x2280, "227A+338 227B+338"⟩,
    ⟨0x2284, "2282+338 2283+338"⟩,
    ⟨0x2288, "2286+338 2287+338"⟩,
    ⟨0x22AC, "22A2+338 22A8+338 22A9+338 22AB+338"⟩,
    ⟨0x22E0, "227C+338 227D+338 2291+338 2292+338"⟩,
    ⟨0x22EA, "22B2+338 22B3+338 22B4+338 22B5+338"⟩,
    ⟨0x2329, "3008 3009"⟩,
    ⟨0x2469, "31+30 31+31 31+32 31+33 31+34 31+35 31+36 31+37 31+38 31+39 32+30 28+31+29"⟩,
    ⟨0x2475, "28+32+29 28+33+29 28+34+29 28+35+29 28+36+29 28+37+29 28+38+29 28+39+29"⟩,
    ⟨0x247D, "28+31+30+29 28+31+31+29 28+31+32+29 28+31+33+29 28+31+34+29 28+31+35+29"⟩,
    ⟨0x2483, "28+31+36+29 28+31+37+29 28+31+38+29 28+31+39+29 28+32+30+29 31+2E 32+2E 33+2E"⟩,
    ⟨0x248B, "34+2E 35+2E 36+2E 37+2E 38+2E 39+2E 31+30+2E 31+31+2E 31+32+2E 31+33+2E 31+34+2E"⟩,
    ⟨0x2496, "31+35+2E 31+36+2E 31+37+2E 31+38+2E 31+39+2E 32+30+2E 28+61+29 28+62+29 28+63+29"⟩,
    ⟨0x249F, "28+64+29 28+65+29 28+66+29 28+67+29 28+68+29 28+69+29 28+6A+29 28+6B+29 28+6C+29"⟩,
    ⟨0x24A8, "28+6D+29 28+6E+29 28+6F+29 28+70+29 28+71+29 28+72+29 28+73+29 28+74+29 28+75+29"⟩,
    ⟨0x24B1, "28+76+29 28+77+29 28+78+29 28+79+29 28+7A+29"⟩,
    ⟨0x24EA, "30"⟩,
    ⟨0x2A0C, "222B+222B+222B+222B"⟩,
    ⟨0x2A74, "3A+3A+3D 3D+3D 3D+3D+3D"⟩,
    ⟨0x2ADC, "2ADD+338"⟩,
    ⟨0x2C7C, "6A 56"⟩,
    ⟨0x2D6F, "2D61"⟩,
    ⟨0x2E9F, "6BCD"⟩,
    ⟨0x2EF3, "9F9F"⟩,
    ⟨0x2F00, "4E00 4E28 4E36 4E3F 4E59 4E85 4E8C 4EA0 4EBA 513F 5165 516B 5182 5196 51AB 51E0"⟩,
    ⟨0x2F10, "51F5 5200 529B 52F9 5315 531A 5338 5341 535C 5369 5382 53B6 53C8 53E3 56D7 571F"⟩,
    ⟨0x2F20, "58EB 5902 590A 5915 5927 5973 5B50 5B80 5BF8 5C0F 5C22 5C38 5C6E 5C71 5DDB 5DE5"⟩,
    ⟨0x2F30, "5DF1 5DFE 5E72 5E7A 5E7F 5EF4 5EFE 5F0B 5F13 5F50 5F61 5F73 5FC3 6208 6236 624B"⟩,
    ⟨0x2F40, "652F 6534 6587 6597 65A4 65B9 65E0 65E5 66F0 6708 6728 6B20 6B62 6B79 6BB3 6BCB"⟩,
    ⟨0x2F50, "6BD4 6BDB 6C0F 6C14 6C34 706B 722A 7236 723B 723F 7247 7259 725B 72AC 7384 7389"⟩,
    ⟨0x2F60, "74DC 74E6 7518 751F 7528 7530 758B 7592 7676 767D 76AE 76BF 76EE 77DB 77E2 77F3"⟩,
    ⟨0x2F70, "793A 79B8 79BE 7A74 7ACB 7AF9 7C73 7CF8 7F36 7F51 7F8A 7FBD 8001 800C 8012 8033"⟩,
    ⟨0x2F80, "807F 8089 81E3 81EA 81F3 81FC 820C 821B 821F 826E 8272 8278 864D 866B 8840 884C"⟩,
    ⟨0x2F90, "8863 897E 898B 89D2 8A00 8C37 8C46 8C55 8C78 8C9D 8D64 8D70 8DB3 8EAB 8ECA 8F9B"⟩,
    ⟨0x2FA0, "8FB0 8FB5 9091 9149 91C6 91CC 91D1 9577 9580 961C 96B6 96B9 96E8 9751 975E 9762"⟩,
    ⟨0x2FB0, "9769 97CB 97ED 97F3 9801 98A8 98DB 98DF 9996 9999 99AC 9AA8 9AD8 9ADF 9B25 9B2F"⟩,
    ⟨0x2FC0, "9B32 9B3C 9B5A 9CE5 9E75 9E7F 9EA5 9EBB 9EC3 9ECD 9ED1 9EF9 9EFD 9F0E 9F13 9F20"⟩,
    ⟨0x2FD0, "9F3B 9F4A 9F52 9F8D 9F9C 9FA0"⟩,
    ⟨0x3000, "20"⟩,
    ⟨0x3036, "3012"⟩,
    ⟨0x3038, "5341 5344 5345"⟩,
    ⟨0x304C, "304B+3099"⟩,
    ⟨0x304E, "304D+3099"⟩,
    ⟨0x3050, "304F+3099"⟩,
    ⟨0x3052, "3051+3099"⟩,
    ⟨0x3054, "3053+3099"⟩,
    ⟨0x3056, "3055+3099"⟩,
    ⟨0x3058, "3057+3099"⟩,
    ⟨0x305A, "3059+3099"⟩,
    ⟨0x305C, "305B+3099"⟩,
    ⟨0x305E, "305D+3099"⟩,
    ⟨0x3060, "305F+3099"⟩,
    ⟨0x3062, "3061+3099"⟩,
    ⟨0x3065, "3064+3099"⟩,
    ⟨0x3067, "3066+3099"⟩,
    ⟨0x3069, "3068+3099"⟩,
    ⟨0x3070, "306F+3099 306F+309A"⟩,
    ⟨0x3073, "3072+3099 3072+309A"⟩,
    ⟨0x3076, "3075+3099 3075+309A"⟩,
    ⟨0x3079, "3078+3099 3078+309A"⟩,
    ⟨0x307C, "307B+3099 307B+309A"⟩,
    ⟨0x3094, "3046+3099"⟩,
    ⟨0x309B, "20+3099 20+309A"⟩,
    ⟨0x309E, "309D+3099 3088+308A"⟩,
    ⟨0x30AC, "30AB+3099"⟩,
    ⟨0x30AE, "30AD+3099"⟩,
    ⟨0x30B0, "30AF+3099"⟩,
    ⟨0x30B2, "30B1+3099"⟩,
    ⟨0x30B4, "30B3+3099"⟩,
    ⟨0x30B6, "30B5+3099"⟩,
    ⟨0x30B8, "30B7+3099"⟩,
    ⟨0x30BA, "30B9+3099"⟩,
    ⟨0x30BC, "30BB+3099"⟩,
    ⟨0x30BE, "30BD+3099"⟩,
    ⟨0x30C0, "30BF+3099"⟩,
    ⟨0x30C2, "30C1+3099"⟩,
    ⟨0x30C5, "30C4+3099"⟩,
    ⟨0x30C7, "30C6+3099"⟩,
    ⟨0x30C9, "30C8+3099"⟩,
    ⟨0x30D0, "30CF+3099 30CF+309A"⟩,
    ⟨0x30D3, "30D2+3099 30D2+309A"⟩,
    ⟨0x30D6, "30D5+3099 30D5+309A"⟩,
    ⟨0x30D9, "30D8+3099 30D8+309A"⟩,
    ⟨0x30DC, "30DB+3099 30DB+309A"⟩,
    ⟨0x30F4, "30A6+3099"⟩,
    ⟨0x30F7, "30EF+3099 30F0+3099 30F1+3099 30F2+3099"⟩,
    ⟨0x30FE, "30FD+3099 30B3+30C8"⟩,
    ⟨0x3131, "1100 1101 11AA 1102 11AC 11AD 1103 1104 1105"⟩,
    ⟨0x3140, "111A 1106 1107 1108 1121"⟩,
    ⟨0x3164, "1160 1114 1115 11C7 11C8 11CC 11CE 11D3 11D7 11D9 111C 11DD 11DF 111D 111E 1120"⟩,
    ⟨0x3174, "1122 1123 1127 1129"⟩,
    ⟨0x317D, "1132 1136 1140 1147 114C 11F1 11F2 1157 1158 1159 1184 1185 1188 1191 1192 1194"⟩,
    ⟨0x318D, "119E 11A1"⟩,
    ⟨0x3192, "4E00 4E8C 4E09 56DB 4E0A 4E2D 4E0B 7532 4E59 4E19 4E01 5929 5730 4EBA"⟩,
    ⟨0x3200, "28+1100+29 28+1102+29 28+1103+29 28+1105+29 28+1106+29 28+1107+29 28+1109+29"⟩,
    ⟨0x3207, "28+110B+29 28+110C+29 28+110E+29 28+110F+29 28+1110+29 28+1111+29 28+1112+29"⟩,
    ⟨0x320E, "28+1100+1161+29 28+1102+1161+29 28+1103+1161+29 28+1105+1161+29 28+1106+1161+29"⟩,
    ⟨0x3213, "28+1107+1161+29 28+1109+1161+29 28+110B+1161+29 28+110C+1161+29 28+110E+1161+29"⟩,
    ⟨0x3218, "28+110F+1161+29 28+1110+1161+29 28+1111+1161+29 28+1112+1161+29 28+110C+116E+29"⟩,
    ⟨0x321D, "28+110B+1169+110C+1165+11AB+29 28+110B+1169+1112+116E+29"⟩,
    ⟨0x3220, "28+4E00+29 28+4E8C+29 28+4E09+29 28+56DB+29 28+4E94+29 28+516D+29 28+4E03+29"⟩,
    ⟨0x3227, "28+516B+29 28+4E5D+29 28+5341+29 28+6708+29 28+706B+29 28+6C34+29 28+6728+29"⟩,
    ⟨0x322E, "28+91D1+29 28+571F+29 28+65E5+29 28+682A+29 28+6709+29 28+793E+29 28+540D+29"⟩,
    ⟨0x3235, "28+7279+29 28+8CA1+29 28+795D+29 28+52B4+29 28+4EE3+29 28+547C+29 28+5B66+29"⟩,
    ⟨0x323C, "28+76E3+29 28+4F01+29 28+8CC7+29 28+5354+29 28+796D+29 28+4F11+29 28+81EA+29"⟩,
    ⟨0x3243, "28+81F3+29 554F 5E7C 6587 7B8F"⟩,
    ⟨0x3250, "50+54+45 32+31 32+32 32+33 32+34 32+35 32+36 32+37 32+38 32+39 33+30 33+31 33+32"⟩,
    ⟨0x325D, "33+33 33+34 33+35 1100 1102 1103 1105 1106 1107 1109 110B 110C"⟩,
    ⟨0x326E, "1100+1161 1102+1161 1103+1161 1105+1161 1106+1161 1107+1161 1109+1161 110B+1161"⟩,
    ⟨0x3276, "110C+1161 110E+1161 110F+1161 1110+1161 1111+1161 1112+1161"⟩,
    ⟨0x327C, "110E+1161+11B7+1100+1169 110C+116E+110B+1174 110B+116E"⟩,
    ⟨0x3280, "4E00 4E8C 4E09 56DB 4E94 516D 4E03 516B 4E5D 5341 6708 706B 6C34 6728 91D1 571F"⟩,
    ⟨0x3290, "65E5 682A 6709 793E 540D 7279 8CA1 795D 52B4 79D8 7537 5973 9069 512A 5370 6CE8"⟩,
    ⟨0x32A0, "9805 4F11 5199 6B63 4E0A 4E2D 4E0B 5DE6 53F3 533B 5B97 5B66 76E3 4F01 8CC7 5354"⟩,
    ⟨0x32B0, "591C 33+36 33+37 33+38 33+39 34+30 34+31 34+32 34+33 34+34 34+35 34+36 34+37"⟩,
    ⟨0x32BD, "34+38 34+39 35+30 31+6708 32+6708 33+6708 34+6708 35+6708 36+6708 37+6708"⟩,
    ⟨0x32C7, "38+6708 39+6708 31+30+6708 31+31+6708 31+32+6708 48+67 65+72+67 65+56 4C+54+44"⟩,
    ⟨0x32D0, "30A2 30A4 30A6 30A8 30AA 30AB 30AD 30AF 30B1 30B3 30B5 30B7 30B9 30BB 30BD 30BF"⟩,
    ⟨0x32E0, "30C1 30C4 30C6 30C8"⟩,
    ⟨0x32EA, "30D2 30D5 30D8 30DB"⟩,
    ⟨0x32F3, "30E4 30E6"⟩,
    ⟨0x32FF, "4EE4+548C 30A2+30CF+309A+30FC+30C8 30A2+30EB+30D5+30A1 30A2+30F3+30D8+309A+30A2"⟩,
    ⟨0x3303, "30A2+30FC+30EB 30A4+30CB+30F3+30AF+3099 30A4+30F3+30C1 30A6+30A9+30F3"⟩,
    ⟨0x3307, "30A8+30B9+30AF+30FC+30C8+3099 30A8+30FC+30AB+30FC 30AA+30F3+30B9 30AA+30FC+30E0"⟩,
    ⟨0x330B, "30AB+30A4+30EA 30AB+30E9+30C3+30C8 30AB+30ED+30EA+30FC 30AB+3099+30ED+30F3"⟩,
    ⟨0x330F, "30AB+3099+30F3+30DE 30AD+3099+30AB+3099 30AD+3099+30CB+30FC 30AD+30E5+30EA+30FC"⟩,
    ⟨0x3313, "30AD+3099+30EB+30BF+3099+30FC 30AD+30ED 30AD+30ED+30AF+3099+30E9+30E0"⟩,
    ⟨0x3316, "30AD+30ED+30E1+30FC+30C8+30EB 30AD+30ED+30EF+30C3+30C8 30AF+3099+30E9+30E0"⟩,
    ⟨0x3319, "30AF+3099+30E9+30E0+30C8+30F3 30AF+30EB+30BB+3099+30A4+30ED 30AF+30ED+30FC+30CD"⟩,
    ⟨0x331C, "30B1+30FC+30B9 30B3+30EB+30CA 30B3+30FC+30DB+309A 30B5+30A4+30AF+30EB"⟩,
    ⟨0x3320, "30B5+30F3+30C1+30FC+30E0 30B7+30EA+30F3+30AF+3099 30BB+30F3+30C1 30BB+30F3+30C8"⟩,
    ⟨0x3324, "30BF+3099+30FC+30B9 30C6+3099+30B7 30C8+3099+30EB 30C8+30F3 30CA+30CE"⟩,
    ⟨0x3329, "30CE+30C3+30C8 30CF+30A4+30C4 30CF+309A+30FC+30BB+30F3+30C8 30CF+309A+30FC+30C4"⟩,
    ⟨0x332D, "30CF+3099+30FC+30EC+30EB 30D2+309A+30A2+30B9+30C8+30EB 30D2+309A+30AF+30EB"⟩,
    ⟨0x3330, "30D2+309A+30B3 30D2+3099+30EB 30D5+30A1+30E9+30C3+30C8+3099 30D5+30A3+30FC+30C8"⟩,
    ⟨0x3334, "30D5+3099+30C3+30B7+30A7+30EB 30D5+30E9+30F3 30D8+30AF+30BF+30FC+30EB"⟩,
    ⟨0x3337, "30D8+309A+30BD 30D8+309A+30CB+30D2 30D8+30EB+30C4 30D8+309A+30F3+30B9"⟩,
    ⟨0x333B, "30D8+309A+30FC+30B7+3099 30D8+3099+30FC+30BF 30DB+309A+30A4+30F3+30C8"⟩,
    ⟨0x333E, "30DB+3099+30EB+30C8 30DB+30F3 30DB+309A+30F3+30C8+3099 30DB+30FC+30EB"⟩,
    ⟨0x3342, "30DB+30FC+30F3 30DE+30A4+30AF+30ED 30DE+30A4+30EB 30DE+30C3+30CF 30DE+30EB+30AF"⟩,
    ⟨0x3347, "30DE+30F3+30B7+30E7+30F3 30DF+30AF+30ED+30F3 30DF+30EA"⟩,
    ⟨0x334A, "30DF+30EA+30CF+3099+30FC+30EB 30E1+30AB+3099 30E1+30AB+3099+30C8+30F3"⟩,
    ⟨0x334D, "30E1+30FC+30C8+30EB 30E4+30FC+30C8+3099 30E4+30FC+30EB 30E6+30A2+30F3"⟩,
    ⟨0x3351, "30EA+30C3+30C8+30EB 30EA+30E9 30EB+30D2+309A+30FC 30EB+30FC+30D5+3099+30EB"⟩,
    ⟨0x3355, "30EC+30E0 30EC+30F3+30C8+30B1+3099+30F3 30EF+30C3+30C8 30+70B9 31+70B9 32+70B9"⟩,
    ⟨0x335B, "33+70B9 34+70B9 35+70B9 36+70B9 37+70B9 38+70B9 39+70B9 31+30+70B9 31+31+70B9"⟩,
    ⟨0x3364, "31+32+70B9 31+33+70B9 31+34+70B9 31+35+70B9 31+36+70B9 31+37+70B9 31+38+70B9"⟩,
    ⟨0x336B, "31+39+70B9 32+30+70B9 32+31+70B9 32+32+70B9 32+33+70B9 32+34+70B9 68+50+61 64+61"⟩,
    ⟨0x3373, "41+55 62+61+72 6F+56 70+63 64+6D 64+6D+32 64+6D+33 49+55 5E73+6210 662D+548C"⟩,
    ⟨0x337D, "5927+6B63 660E+6CBB 682A+5F0F+4F1A+793E 70+41 6E+41 3BC+41 6D+41 6B+41 4B+42"⟩,
    ⟨0x3386, "4D+42 47+42 63+61+6C 6B+63+61+6C 70+46 6E+46 3BC+46 3BC+67 6D+67 6B+67 48+7A"⟩,
    ⟨0x3391, "6B+48+7A 4D+48+7A 47+48+7A 54+48+7A 3BC+6C 6D+6C 64+6C 6B+6C 66+6D 6E+6D 3BC+6D"⟩,
    ⟨0x339C, "6D+6D 63+6D 6B+6D 6D+6D+32 63+6D+32 6D+32 6B+6D+32 6D+6D+33 63+6D+33 6D+33"⟩,
    ⟨0x33A6, "6B+6D+33 6D+2215+73 6D+2215+73+32 50+61 6B+50+61 4D+50+61 47+50+61 72+61+64"⟩,
    ⟨0x33AE, "72+61+64+2215+73 72+61+64+2215+73+32 70+73 6E+73 3BC+73 6D+73 70+56 6E+56 3BC+56"⟩,
    ⟨0x33B7, "6D+56 6B+56 4D+56 70+57 6E+57 3BC+57 6D+57 6B+57 4D+57 6B+3A9 4D+3A9 61+2E+6D+2E"⟩,
    ⟨0x33C3, "42+71 63+63 63+64 43+2215+6B+67 43+6F+2E 64+42 47+79 68+61 48+50 69+6E 4B+4B"⟩,
    ⟨0x33CE, "4B+4D 6B+74 6C+6D 6C+6E 6C+6F+67 6C+78 6D+62 6D+69+6C 6D+6F+6C 50+48 70+2E+6D+2E"⟩,
    ⟨0x33D9, "50+50+4D 50+52 73+72 53+76 57+62 56+2215+6D 41+2215+6D 31+65E5 32+65E5 33+65E5"⟩,
    ⟨0x33E3, "34+65E5 35+65E5 36+65E5 37+65E5 38+65E5 39+65E5 31+30+65E5 31+31+65E5 31+32+65E5"⟩,
    ⟨0x33EC, "31+33+65E5 31+34+65E5 31+35+65E5 31+36+65E5 31+37+65E5 31+38+65E5 31+39+65E5"⟩,
    ⟨0x33F3, "32+30+65E5 32+31+65E5 32+32+65E5 32+33+65E5 32+34+65E5 32+35+65E5 32+36+65E5"⟩,
    ⟨0x33FA, "32+37+65E5 32+38+65E5 32+39+65E5 33+30+65E5 33+31+65E5 67+61+6C"⟩,
    ⟨0xA69C, "44A 44C"⟩,
    ⟨0xA770, "A76F"⟩,
    ⟨0xA7F1, "53 43 46 51"⟩,
    ⟨0xA7F8, "126 153"⟩,
    ⟨0xAB5C, "A727 AB37 26B AB52"⟩,
    ⟨0xAB69, "28D"⟩,
    ⟨0xF900, "8C48 66F4 8ECA 8CC8 6ED1 4E32 53E5 9F9C 9F9C 5951 91D1 5587 5948 61F6 7669 7F85"⟩,
    ⟨0xF910, "863F 87BA 88F8 908F 6A02 6D1B 70D9 73DE 843D 916A 99F1 4E82 5375 6B04 721B 862D"⟩,
    ⟨0xF920, "9E1E 5D50 6FEB 85CD 8964 62C9 81D8 881F 5ECA 6717 6D6A 72FC 90CE 4F86 51B7 52DE"⟩,
    ⟨0xF930, "64C4 6AD3 7210 76E7 8001 8606 865C 8DEF 9732 9B6F 9DFA 788C 797F 7DA0 83C9 9304"⟩,
    ⟨0xF940, "9E7F 8AD6 58DF 5F04 7C60 807E 7262 78CA 8CC2 96F7 58D8 5C62 6A13 6DDA 6F0F 7D2F"⟩,
    ⟨0xF950, "7E37 964B 52D2 808B 51DC 51CC 7A1C 7DBE 83F1 9675 8B80 62CF 6A02 8AFE 4E39 5BE7"⟩,
    ⟨0xF960, "6012 7387 7570 5317 78FB 4FBF 5FA9 4E0D 6CCC 6578 7D22 53C3 585E 7701 8449 8AAA"⟩,
    ⟨0xF970, "6BBA 8FB0 6C88 62FE 82E5 63A0 7565 4EAE 5169 51C9 6881 7CE7 826F 8AD2 91CF 52F5"⟩,
    ⟨0xF980, "5442 5973 5EEC 65C5 6FFE 792A 95AD 9A6A 9E97 9ECE 529B 66C6 6B77 8F62 5E74 6190"⟩,
    ⟨0xF990, "6200 649A 6F23 7149 7489 79CA 7DF4 806F 8F26 84EE 9023 934A 5217 52A3 54BD 70C8"⟩,
    ⟨0xF9A0, "88C2 8AAA 5EC9 5FF5 637B 6BAE 7C3E 7375 4EE4 56F9 5BE7 5DBA 601C 73B2 7469 7F9A"⟩,
    ⟨0xF9B0, "8046 9234 96F6 9748 9818 4F8B 79AE 91B4 96B8 60E1 4E86 50DA 5BEE 5C3F 6599 6A02"⟩,
    ⟨0xF9C0, "71CE 7642 84FC 907C 9F8D 6688 962E 5289 677B 67F3 6D41 6E9C 7409 7559 786B 7D10"⟩,
    ⟨0xF9D0, "985E 516D 622E 9678 502B 5D19 6DEA 8F2A 5F8B 6144 6817 7387 9686 5229 540F 5C65"⟩,
    ⟨0xF9E0, "6613 674E 68A8 6CE5 7406 75E2 7F79 88CF 88E1 91CC 96E2 533F 6EBA 541D 71D0 7498"⟩,
    ⟨0xF9F0, "85FA 96A3 9C57 9E9F 6797 6DCB 81E8 7ACB 7B20 7C92 72C0 7099 8B58 4EC0 8336 523A"⟩,
    ⟨0xFA00, "5207 5EA6 62D3 7CD6 5B85 6D1E 66B4 8F3B 884C 964D 898B 5ED3 5140 55C0"⟩,
    ⟨0xFA10, "585A"⟩,
    ⟨0xFA12, "6674"⟩,
    ⟨0xFA15, "51DE 732A 76CA 793C 795E 7965 798F 9756 7CBE 7FBD"⟩,
    ⟨0xFA20, "8612"⟩,
    ⟨0xFA22, "8AF8"⟩,
    ⟨0xFA25, "9038 90FD"⟩,
    ⟨0xFA2A, "98EF 98FC 9928 9DB4 90DE 96B7 4FAE 50E7 514D 52C9 52E4 5351 559D 5606 5668 5840"⟩,
    ⟨0xFA3A, "58A8 5C64 5C6E 6094 6168 618E 61F2 654F 65E2 6691 6885 6D77 6E1A 6F22 716E 722B"⟩,
    ⟨0xFA4A, "7422 7891 793E 7949 7948 7950 7956 795D 798D 798E 7A40 7A81 7BC0 7DF4 7E09 7E41"⟩,
    ⟨0xFA5A, "7F72 8005 81ED 8279 8279 8457 8910 8996 8B01 8B39 8CD3 8D08 8FB6 9038 96E3 97FF"⟩,
    ⟨0xFA6A, "983B 6075 242EE 8218"⟩,
    ⟨0xFA70, "4E26 51B5 5168 4F80 5145 5180 52C7 52FA 559D 5555 5599 55E2 585A 58B3 5944 5954"⟩,
    ⟨0xFA80, "5A62 5B28 5ED2 5ED9 5F69 5FAD 60D8 614E 6108 618E 6160 61F2 6234 63C4 641C 6452"⟩,
    ⟨0xFA90, "6556 6674 6717 671B 6756 6B79 6BBA 6D41 6EDB 6ECB 6F22 701E 716E 77A7 7235 72AF"⟩,
    ⟨0xFAA0, "732A 7471 7506 753B 761D 761F 76CA 76DB 76F4 774A 7740 78CC 7AB1 7BC0 7C7B 7D5B"⟩,
    ⟨0xFAB0, "7DF4 7F3E 8005 8352 83EF 8779 8941 8986 8996 8ABF 8AF8 8ACB 8B01 8AFE 8AED 8B39"⟩,
    ⟨0xFAC0, "8B8A 8D08 8F38 9072 9199 9276 967C 96E3 9756 97DB 97FF 980B 983B 9B12 9F9C 2284A"⟩,
    ⟨0xFAD0, "22844 233D5 3B9D 4018 4039 25249 25CD0 27ED3 9F43 9F8E"⟩,
    ⟨0xFB00, "66+66 66+69 66+6C 66+66+69 66+66+6C 73+74 73+74"⟩,
    ⟨0xFB13, "574+576 574+565 574+56B 57E+576 574+56D"⟩,
    ⟨0xFB1D, "5D9+5B4"⟩,
    ⟨0xFB1F, "5F2+5B7 5E2 5D0 5D3 5D4 5DB 5DC 5DD 5E8 5EA 2B 5E9+5C1 5E9+5C2 5E9+5BC+5C1"⟩,
    ⟨0xFB2D, "5E9+5BC+5C2 5D0+5B7 5D0+5B8 5D0+5BC 5D1+5BC 5D2+5BC 5D3+5BC 5D4+5BC 5D5+5BC"⟩,
    ⟨0xFB36, "5D6+5BC"⟩,
    ⟨0xFB38, "5D8+5BC 5D9+5BC 5DA+5BC 5DB+5BC 5DC+5BC"⟩,
    ⟨0xFB3E, "5DE+5BC"⟩,
    ⟨0xFB40, "5E0+5BC 5E1+5BC"⟩,
    ⟨0xFB43, "5E3+5BC 5E4+5BC"⟩,
    ⟨0xFB46, "5E6+5BC 5E7+5BC 5E8+5BC 5E9+5BC 5EA+5BC 5D5+5B9 5D1+5BF 5DB+5BF 5E4+5BF 5D0+5DC"⟩,
    ⟨0xFB50, "671 671 67B 67B 67B 67B 67E 67E 67E 67E 680 680 680 680 67A 67A 67A 67A 67F 67F"⟩,
    ⟨0xFB64, "67F 67F 679 679 679 679 6A4 6A4 6A4 6A4 6A6 6A6 6A6 6A6 684 684 684 684 683 683"⟩,
    ⟨0xFB78, "683 683 686 686 686 686 687 687 687 687 68D 68D 68C 68C 68E 68E 688 688 698 698"⟩,
    ⟨0xFB8C, "691 691 6A9 6A9 6A9 6A9 6AF 6AF 6AF 6AF 6B3 6B3 6B3 6B3 6B1 6B1 6B1 6B1 6BA 6BA"⟩,
    ⟨0xFBA0, "6BB 6BB 6BB 6BB 6D5+654 6D5+654 6C1 6C1 6C1 6C1 6BE 6BE 6BE 6BE 6D2 6D2 6D2+654"⟩,
    ⟨0xFBB1, "6D2+654"⟩,
    ⟨0xFBD3, "6AD 6AD 6AD 6AD 6C7 6C7 6C6 6C6 6C8 6C8 6C7+674 6CB 6CB 6C5 6C5 6C9 6C9 6D0 6D0"⟩,
    ⟨0xFBE6, "6D0 6D0 649 649 64A+654+627 64A+654+627 64A+654+6D5 64A+654+6D5 64A+654+648"⟩,
    ⟨0xFBEF, "64A+654+648 64A+654+6C7 64A+654+6C7 64A+654+6C6 64A+654+6C6 64A+654+6C8"⟩,
    ⟨0xFBF5, "64A+654+6C8 64A+654+6D0 64A+654+6D0 64A+654+6D0 64A+654+649 64A+654+649"⟩,
    ⟨0xFBFB, "64A+654+649 6CC 6CC 6CC 6CC 64A+654+62C 64A+654+62D 64A+654+645 64A+654+649"⟩,
    ⟨0xFC04, "64A+654+64A 628+62C 628+62D 628+62E 628+645 628+649 628+64A 62A+62C 62A+62D"⟩,
    ⟨0xFC0D, "62A+62E 62A+645 62A+649 62A+64A 62B+62C 62B+645 62B+649 62B+64A 62C+62D 62C+645"⟩,
    ⟨0xFC17, "62D+62C 62D+645 62E+62C 62E+62D 62E+645 633+62C 633+62D 633+62E 633+645 635+62D"⟩,
    ⟨0xFC21, "635+645 636+62C 636+62D 636+62E 636+645 637+62D 637+645 638+645 639+62C 639+645"⟩,
    ⟨0xFC2B, "63A+62C 63A+645 641+62C 641+62D 641+62E 641+645 641+649 641+64A 642+62D 642+645"⟩,
    ⟨0xFC35, "642+649 642+64A 643+627 643+62C 643+62D 643+62E 643+644 643+645 643+649 643+64A"⟩,
    ⟨0xFC3F, "644+62C 644+62D 644+62E 644+645 644+649 644+64A 645+62C 645+62D 645+62E 645+645"⟩,
    ⟨0xFC49, "645+649 645+64A 646+62C 646+62D 646+62E 646+645 646+649 646+64A 647+62C 647+645"⟩,
    ⟨0xFC53, "647+649 647+64A 64A+62C 64A+62D 64A+62E 64A+645 64A+649 64A+64A 630+670 631+670"⟩,
    ⟨0xFC5D, "649+670 20+64C+651 20+64D+651 20+64E+651 20+64F+651 20+650+651 20+651+670"⟩,
    ⟨0xFC64, "64A+654+631 64A+654+632 64A+654+645 64A+654+646 64A+654+649 64A+654+64A 628+631"⟩,
    ⟨0xFC6B, "628+632 628+645 628+646 628+649 628+64A 62A+631 62A+632 62A+645 62A+646 62A+649"⟩,
    ⟨0xFC75, "62A+64A 62B+631 62B+632 62B+645 62B+646 62B+649 62B+64A 641+649 641+64A 642+649"⟩,
    ⟨0xFC7F, "642+64A 643+627 643+644 643+645 643+649 643+64A 644+645 644+649 644+64A 645+627"⟩,
    ⟨0xFC89, "645+645 646+631 646+632 646+645 646+646 646+649 646+64A 649+670 64A+631 64A+632"⟩,
    ⟨0xFC93, "64A+645 64A+646 64A+649 64A+64A 64A+654+62C 64A+654+62D 64A+654+62E 64A+654+645"⟩,
    ⟨0xFC9B, "64A+654+647 628+62C 628+62D 628+62E 628+645 628+647 62A+62C 62A+62D 62A+62E"⟩,
    ⟨0xFCA4, "62A+645 62A+647 62B+645 62C+62D 62C+645 62D+62C 62D+645 62E+62C 62E+645 633+62C"⟩,
    ⟨0xFCAE, "633+62D 633+62E 633+645 635+62D 635+62E 635+645 636+62C 636+62D 636+62E 636+645"⟩,
    ⟨0xFCB8, "637+62D 638+645 639+62C 639+645 63A+62C 63A+645 641+62C 641+62D 641+62E 641+645"⟩,
    ⟨0xFCC2, "642+62D 642+645 643+62C 643+62D 643+62E 643+644 643+645 644+62C 644+62D 644+62E"⟩,
    ⟨0xFCCC, "644+645 644+647 645+62C 645+62D 645+62E 645+645 646+62C 646+62D 646+62E 646+645"⟩,
    ⟨0xFCD6, "646+647 647+62C 647+645 647+670 64A+62C 64A+62D 64A+62E 64A+645 64A+647"⟩,
    ⟨0xFCDF, "64A+654+645 64A+654+647 628+645 628+647 62A+645 62A+647 62B+645 62B+647 633+645"⟩,
    ⟨0xFCE8, "633+647 634+645 634+647 643+644 643+645 644+645 646+645 646+647 64A+645 64A+647"⟩,
    ⟨0xFCF2, "640+64E+651 640+64F+651 640+650+651 637+649 637+64A 639+649 639+64A 63A+649"⟩,
    ⟨0xFCFA, "63A+64A 633+649 633+64A 634+649 634+64A 62D+649 62D+64A 62C+649 62C+64A 62E+649"⟩,
    ⟨0xFD04, "62E+64A 635+649 635+64A 636+649 636+64A 634+62C 634+62D 634+62E 634+645 634+631"⟩,
    ⟨0xFD0E, "633+631 635+631 636+631 637+649 637+64A 639+649 639+64A 63A+649 63A+64A 633+649"⟩,
    ⟨0xFD18, "633+64A 634+649 634+64A 62D+649 62D+64A 62C+649 62C+64A 62E+649 62E+64A 635+649"⟩,
    ⟨0xFD22, "635+64A 636+649 636+64A 634+62C 634+62D 634+62E 634+645 634+631 633+631 635+631"⟩,
    ⟨0xFD2C, "636+631 634+62C 634+62D 634+62E 634+645 633+647 634+647 637+645 633+62C 633+62D"⟩,
    ⟨0xFD36, "633+62E 634+62C 634+62D 634+62E 637+645 638+645 627+64B 627+64B"⟩,
    ⟨0xFD50, "62A+62C+645 62A+62D+62C 62A+62D+62C 62A+62D+645 62A+62E+645 62A+645+62C"⟩,
    ⟨0xFD56, "62A+645+62D 62A+645+62E 62C+645+62D 62C+645+62D 62D+645+64A 62D+645+649"⟩,
    ⟨0xFD5C, "633+62D+62C 633+62C+62D 633+62C+649 633+645+62D 633+645+62D 633+645+62C"⟩,
    ⟨0xFD62, "633+645+645 633+645+645 635+62D+62D 635+62D+62D 635+645+645 634+62D+645"⟩,
    ⟨0xFD68, "634+62D+645 634+62C+64A 634+645+62E 634+645+62E 634+645+645 634+645+645"⟩,
    ⟨0xFD6E, "636+62D+649 636+62E+645 636+62E+645 637+645+62D 637+645+62D 637+645+645"⟩,
    ⟨0xFD74, "637+645+64A 639+62C+645 639+645+645 639+645+645 639+645+649 63A+645+645"⟩,
    ⟨0xFD7A, "63A+645+64A 63A+645+649 641+62E+645 641+62E+645 642+645+62D 642+645+645"⟩,
    ⟨0xFD80, "644+62D+645 644+62D+64A 644+62D+649 644+62C+62C 644+62C+62C 644+62E+645"⟩,
    ⟨0xFD86, "644+62E+645 644+645+62D 644+645+62D 645+62D+62C 645+62D+645 645+62D+64A"⟩,
    ⟨0xFD8C, "645+62C+62D 645+62C+645 645+62E+62C 645+62E+645"⟩,
    ⟨0xFD92, "645+62C+62E 647+645+62C 647+645+645 646+62D+645 646+62D+649 646+62C+645"⟩,
    ⟨0xFD98, "646+62C+645 646+62C+649 646+645+64A 646+645+649 64A+645+645 64A+645+645"⟩,
    ⟨0xFD9E, "628+62E+64A 62A+62C+64A 62A+62C+649 62A+62E+64A 62A+62E+649 62A+645+64A"⟩,
    ⟨0xFDA4, "62A+645+649 62C+645+64A 62C+62D+649 62C+645+649 633+62E+649 635+62D+64A"⟩,
    ⟨0xFDAA, "634+62D+64A 636+62D+64A 644+62C+64A 644+645+64A 64A+62D+64A 64A+62C+64A"⟩,
    ⟨0xFDB0, "64A+645+64A 645+645+64A 642+645+64A 646+62D+64A 642+645+62D 644+62D+645"⟩,
    ⟨0xFDB6, "639+645+64A 643+645+64A 646+62C+62D 645+62E+64A 644+62C+645 643+645+645"⟩,
    ⟨0xFDBC, "644+62C+645 646+62C+62D 62C+62D+64A 62D+62C+64A 645+62C+64A 641+645+64A"⟩,
    ⟨0xFDC2, "628+62D+64A 643+645+645 639+62C+645 635+645+645 633+62E+64A 646+62C+64A"⟩,
    ⟨0xFDF0, "635+644+6D2 642+644+6D2 627+644+644+647 627+643+628+631 645+62D+645+62F"⟩,
    ⟨0xFDF5, "635+644+639+645 631+633+648+644 639+644+64A+647 648+633+644+645 635+644+649"⟩,
    ⟨0xFDFA, "635+644+649+20+627+644+644+647+20+639+644+64A+647+20+648+633+644+645"⟩,
    ⟨0xFDFB, "62C+644+20+62C+644+627+644+647 631+6CC+627+644"⟩,
    ⟨0xFE10, "2C 3001 3002 3A 3B 21 3F 3016 3017 2E+2E+2E"⟩,
    ⟨0xFE30, "2E+2E 2014 2013 5F 5F 28 29 7B 7D 3014 3015 3010 3011 300A 300B 3008 3009"⟩,
    ⟨0xFE47, "5B 5D 20+305 20+305 20+305 20+305 5F 5F 5F 2C 3001 2E"⟩,
    ⟨0xFE54, "3B 3A 3F 21 2014 28 29 7B 7D 3014 3015 23 26 2A 2B 2D 3C 3E 3D"⟩,
    ⟨0xFE68, "5C 24 25 40"⟩,
    ⟨0xFE70, "20+64B 640+64B 20+64C"⟩,
    ⟨0xFE74, "20+64D"⟩,
    ⟨0xFE76, "20+64E 640+64E 20+64F 640+64F 20+650 640+650 20+651 640+651 20+652 640+652 621"⟩,
    ⟨0xFE81, "627+653 627+653 627+654 627+654 648+654 648+654 627+655 627+655 64A+654 64A+654"⟩,
    ⟨0xFE8B, "64A+654 64A+654 627 627 628 628 628 628 629 629 62A 62A 62A 62A 62B 62B 62B 62B"⟩,
    ⟨0xFE9D, "62C 62C 62C 62C 62D 62D 62D 62D 62E 62E 62E 62E 62F 62F 630 630 631 631 632 632"⟩,
    ⟨0xFEB1, "633 633 633 633 634 634 634 634 635 635 635 635 636 636 636 636 637 637 637 637"⟩,
    ⟨0xFEC5, "638 638 638 638 639 639 639 639 63A 63A 63A 63A 641 641 641 641 642 642 642 642"⟩,
    ⟨0xFED9, "643 643 643 643 644 644 644 644 645 645 645 645 646 646 646 646 647 647 647 647"⟩,
    ⟨0xFEED, "648 648 649 649 64A 64A 64A 64A 644+627+653 644+627+653 644+627+654 644+627+654"⟩,
    ⟨0xFEF9, "644+627+655 644+627+655 644+627 644+627"⟩,
    ⟨0xFF5F, "2985 2986 3002 300C 300D 3001 30FB 30F2 30A1 30A3 30A5 30A7 30A9 30E3 30E5 30E7"⟩,
    ⟨0xFF6F, "30C3 30FC 30A2 30A4 30A6 30A8 30AA 30AB 30AD 30AF 30B1 30B3 30B5 30B7 30B9 30BB"⟩,
    ⟨0xFF7F, "30BD 30BF 30C1 30C4 30C6 30C8"⟩,
    ⟨0xFF8B, "30D2 30D5 30D8 30DB"⟩,
    ⟨0xFF94, "30E4 30E6"⟩,
    ⟨0xFF9C, "30EF 30F3 3099 309A 1160 1100 1101 11AA 1102 11AC 11AD 1103 1104 1105"⟩,
    ⟨0xFFB0, "111A 1106 1107 1108 1121"⟩,
    ⟨0xFFDA, "1173 1174 1175"⟩,
    ⟨0xFFE0, "A2 A3 AC 20+304 A6 A5 20A9"⟩,
    ⟨0xFFE8, "2502"⟩,
    ⟨0xFFED, "25A0 25CB"⟩,
    ⟨0x105C9, "105D2+307"⟩,
    ⟨0x105E4, "105DA+307"⟩,
    ⟨0x10781, "2D0 2D1 E6 299 253"⟩,
    ⟨0x10787, "2A3 AB66 2A5 2A4 256 257 1D91 258 25E 2A9 264 262 260 29B 127 29C 267 284 2AA"⟩,
    ⟨0x1079A, "2AB 26C 1DF04 A78E 26E 1DF05 28E 1DF06 F8 276 277 71 27A 1DF08 27D 27E 280 2A8"⟩,
    ⟨0x107AC, "2A6 AB67 2A7 288 2C71"⟩,
    ⟨0x107B2, "28F 2A1 2A2 298 1C0 1C1 1C2 1DF0A 1DF1E 287 296 297 29E 1DF0B"⟩,
    ⟨0x1109A, "11099+110BA"⟩,
    ⟨0x1109C, "1109B+110BA"⟩,
    ⟨0x110AB, "110A5+110BA"⟩,
    ⟨0x1112E, "11131+11127 11132+11127"⟩,
    ⟨0x1134B, "11347+1133E 11347+11357"⟩,
    ⟨0x11383, "11382+113C9"⟩,
    ⟨0x11385, "11384+113BB"⟩,
    ⟨0x1138E, "1138B+113C2"⟩,
    ⟨0x11391, "11390+113C9"⟩,
    ⟨0x113C5, "113C2+113C2"⟩,
    ⟨0x113C7, "113C2+113B8 113C2+113C9"⟩,
    ⟨0x114BB, "114B9+114BA 114B9+114B0"⟩,
    ⟨0x114BE, "114B9+114BD"⟩,
    ⟨0x115BA, "115B8+115AF 115B9+115AF"⟩,
    ⟨0x11938, "11935+11930"⟩,
    ⟨0x16121, "1611E+1611E 1611E+16129 1611E+1611F 16129+1611F 1611E+16120 1611E+1611E+1611F"⟩,
    ⟨0x16127, "1611E+16129+1611F 1611E+1611E+16120"⟩,
    ⟨0x16D68, "16D67+16D67 16D63+16D67 16D63+16D67+16D67"⟩,
    ⟨0x1B123, "3053+3068 3068+3082 30C8+30E2 30E8+30EA"⟩,
    ⟨0x1D15E, "1D157+1D165 1D158+1D165 1D158+1D165+1D16E 1D158+1D165+1D16F 1D158+1D165+1D170"⟩,
    ⟨0x1D163, "1D158+1D165+1D171 1D158+1D165+1D172"⟩,
    ⟨0x1D1BB, "1D1B9+1D165 1D1BA+1D165 1D1B9+1D165+1D16E 1D1BA+1D165+1D16E 1D1B9+1D165+1D16F"⟩,
    ⟨0x1D1C0, "1D1BA+1D165+1D16F"⟩,
    ⟨0x1D49C, "41"⟩,
    ⟨0x1D49E, "43 44"⟩,
    ⟨0x1D4A2, "47"⟩,
    ⟨0x1D4A5, "4A 4B"⟩,
    ⟨0x1D4BB, "66"⟩,
    ⟨0x1D504, "41 42"⟩,
    ⟨0x1D538, "41 42"⟩,
    ⟨0x1D546, "4F"⟩,
    ⟨0x1D6A4, "131 237 DF"⟩,
    ⟨0x1D6B9, "398"⟩,
    ⟨0x1D6C1, "2207"⟩,
    ⟨0x1D6DB, "2202 3B5 3B8 3BA 3C6 3C1 3C0"⟩,
    ⟨0x1D6F3, "398"⟩,
    ⟨0x1D6FB, "2207"⟩,
    ⟨0x1D715, "2202 3B5 3B8 3BA 3C6 3C1 3C0"⟩,
    ⟨0x1D72D, "398"⟩,
    ⟨0x1D735, "2207"⟩,
    ⟨0x1D74F, "2202 3B5 3B8 3BA 3C6 3C1 3C0"⟩,
    ⟨0x1D767, "398"⟩,
    ⟨0x1D76F, "2207"⟩,
    ⟨0x1D789, "2202 3B5 3B8 3BA 3C6 3C1 3C0"⟩,
    ⟨0x1D7A1, "398"⟩,
    ⟨0x1D7A9, "2207"⟩,
    ⟨0x1D7C3, "2202 3B5 3B8 3BA 3C6 3C1 3C0 3DC 3DD"⟩,
    ⟨0x1DF95, "DF"⟩,
    ⟨0x1DFCD, "1DF57 1DF58 1DF59 263 1D18 180 111 1E5 142"⟩,
    ⟨0x1DFD9, "249 1D7F 1DF3F 19E 27C 238 239"⟩,
    ⟨0x1DFE2, "286 1D98"⟩,
    ⟨0x1DFE6, "293 1D9A"⟩,
    ⟨0x1DFE9, "1D00 1D07 27F 285 2AE 2AF 221 234 235 236 3C8 3C9 1D81"⟩,
    ⟨0x1DFF7, "1D87 1D8A 1D8E 188 199 1A5 2A0 1AD 1DF09"⟩,
    ⟨0x1E039, "43A 43B 43C"⟩,
    ⟨0x1E047, "44B 44D 44E A689 4D9 456 458 4E9 4AF 4CF"⟩,
    ⟨0x1E05A, "43A 43B 43E 43F 441"⟩,
    ⟨0x1E065, "44A 44B 491 456 455 45F 4AB A651 4B1"⟩,
    ⟨0x1EE00, "627 628 62C 62F"⟩,
    ⟨0x1EE05, "648 632 62D 637 64A"⟩,
    ⟨0x1EE0E, "633 639 641 635 642 631 634 62A 62B 62E 630 636 638 63A 66E 6BA 6A1 66F"⟩,
    ⟨0x1EE21, "628 62C"⟩,
    ⟨0x1EE24, "647"⟩,
    ⟨0x1EE27, "62D"⟩,
    ⟨0x1EE29, "64A"⟩,
    ⟨0x1EE2E, "633 639 641 635 642"⟩,
    ⟨0x1EE34, "634 62A 62B 62E"⟩,
    ⟨0x1EE39, "636"⟩,
    ⟨0x1EE3B, "63A"⟩,
    ⟨0x1EE42, "62C"⟩,
    ⟨0x1EE47, "62D"⟩,
    ⟨0x1EE49, "64A"⟩,
    ⟨0x1EE4B, "644"⟩,
    ⟨0x1EE4D, "646 633 639"⟩,
    ⟨0x1EE51, "635 642"⟩,
    ⟨0x1EE54, "634"⟩,
    ⟨0x1EE57, "62E"⟩,
    ⟨0x1EE59, "636"⟩,
    ⟨0x1EE5B, "63A"⟩,
    ⟨0x1EE5D, "6BA"⟩,
    ⟨0x1EE5F, "66F"⟩,
    ⟨0x1EE61, "628 62C"⟩,
    ⟨0x1EE64, "647"⟩,
    ⟨0x1EE67, "62D 637 64A 643"⟩,
    ⟨0x1EE6C, "645 646 633 639 641 635 642"⟩,
    ⟨0x1EE74, "634 62A 62B 62E"⟩,
    ⟨0x1EE79, "636 638 63A 66E"⟩,
    ⟨0x1EE7E, "6A1"⟩,
    ⟨0x1EE80, "627 628 62C 62F 647 648 632 62D 637 64A"⟩,
    ⟨0x1EE8B, "644 645 646 633 639 641 635 642 631 634 62A 62B 62E 630 636 638 63A"⟩,
    ⟨0x1EEA1, "628 62C 62F"⟩,
    ⟨0x1EEA5, "648 632 62D 637 64A"⟩,
    ⟨0x1EEAB, "644 645 646 633 639 641 635 642 631 634 62A 62B 62E 630 636 638 63A"⟩,
    ⟨0x1F100, "30+2E 30+2C 31+2C 32+2C 33+2C 34+2C 35+2C 36+2C 37+2C 38+2C 39+2C"⟩,
    ⟨0x1F110, "28+41+29 28+42+29 28+43+29 28+44+29 28+45+29 28+46+29 28+47+29 28+48+29 28+49+29"⟩,
    ⟨0x1F119, "28+4A+29 28+4B+29 28+4C+29 28+4D+29 28+4E+29 28+4F+29 28+50+29 28+51+29 28+52+29"⟩,
    ⟨0x1F122, "28+53+29 28+54+29 28+55+29 28+56+29 28+57+29 28+58+29 28+59+29 28+5A+29"⟩,
    ⟨0x1F12A, "3014+53+3015 43 52 43+44 57+5A"⟩,
    ⟨0x1F14A, "48+56 4D+56 53+44 53+53 50+50+56 57+43"⟩,
    ⟨0x1F16A, "4D+43 4D+44 4D+52"⟩,
    ⟨0x1F190, "44+4A"⟩,
    ⟨0x1F200, "307B+304B 30B3+30B3 30B5"⟩,
    ⟨0x1F210, "624B 5B57 53CC 30C6+3099 4E8C 591A 89E3 5929 4EA4 6620 7121 6599 524D 5F8C 518D"⟩,
    ⟨0x1F21F, "65B0 521D 7D42 751F 8CA9 58F0 5439 6F14 6295 6355 4E00 4E09 904A 5DE6 4E2D 53F3"⟩,
    ⟨0x1F22F, "6307 8D70 6253 7981 7A7A 5408 6E80 6709 6708 7533 5272 55B6 914D"⟩,
    ⟨0x1F240, "3014+672C+3015 3014+4E09+3015 3014+4E8C+3015 3014+5B89+3015 3014+70B9+3015"⟩,
    ⟨0x1F245, "3014+6253+3015 3014+76D7+3015 3014+52DD+3015 3014+6557+3015"⟩,
    ⟨0x1F250, "5F97 53EF"⟩,
    ⟨0x2F800, "4E3D 4E38 4E41 20122 4F60 4FAE 4FBB 5002 507A 5099 50E7 50CF 349E 2063A 514D"⟩,
    ⟨0x2F80F, "5154 5164 5177 2051C 34B9 5167 518D 2054B 5197 51A4 4ECC 51AC 51B5 291DF 51F5"⟩,
    ⟨0x2F81E, "5203 34DF 523B 5246 5272 5277 3515 52C7 52C9 52E4 52FA 5305 5306 5317 5349 5351"⟩,
    ⟨0x2F82E, "535A 5373 537D 537F 537F 537F 20A2C 7070 53CA 53DF 20B63 53EB 53F1 5406 549E"⟩,
    ⟨0x2F83D, "5438 5448 5468 54A2 54F6 5510 5553 5563 5584 5584 5599 55AB 55B3 55C2 5716 5606"⟩,
    ⟨0x2F84D, "5717 5651 5674 5207 58EE 57CE 57F4 580D 578B 5832 5831 58AC 214E4 58F2 58F7 5906"⟩,
    ⟨0x2F85D, "591A 5922 5962 216A8 216EA 59EC 5A1B 5A27 59D8 5A66 36EE 36FC 5B08 5B3E 5B3E"⟩,
    ⟨0x2F86C, "219C8 5BC3 5BD8 5BE7 5BF3 21B18 5BFF 5C06 5F53 5C22 3781 5C60 5C6E 5CC0 5C8D"⟩,
    ⟨0x2F87B, "21DE4 5D43 21DE6 5D6E 5D6B 5D7C 5DE1 5DE2 382F 5DFD 5E28 5E3D 5E69 3862 22183"⟩,
    ⟨0x2F88A, "387C 5EB0 5EB3 5EB6 5ECA 2A392 5EFE 22331 22331 8201 5F22 5F22 38C7 232B8 261DA"⟩,
    ⟨0x2F899, "5F62 5F6B 38E3 5F9A 5FCD 5FD7 5FF9 6081 393A 391C 6094 226D4 60C7 6148 614C 614E"⟩,
    ⟨0x2F8A9, "614C 617A 618E 61B2 61A4 61AF 61DE 61F2 61F6 6210 621B 625D 62B1 62D4 6350 22B0C"⟩,
    ⟨0x2F8B9, "633D 62FC 6368 6383 63E4 22BF1 6422 63C5 63A9 3A2E 6469 647E 649D 6477 3A6C 654F"⟩,
    ⟨0x2F8C9, "656C 2300A 65E3 66F8 6649 3B19 6691 3B08 3AE4 5192 5195 6700 669C 80AD 43D9 6717"⟩,
    ⟨0x2F8D9, "671B 6721 675E 6753 233C3 3B49 67FA 6785 6852 6885 2346D 688E 681F 6914 3B9D"⟩,
    ⟨0x2F8E8, "6942 69A3 69EA 6AA8 236A3 6ADB 3C18 6B21 238A7 6B54 3C4E 6B72 6B9F 6BBA 6BBB"⟩,
    ⟨0x2F8F7, "23A8D 21D0B 23AFA 6C4E 23CBC 6CBF 6CCD 6C67 6D16 6D3E 6D77 6D41 6D69 6D78 6D85"⟩,
    ⟨0x2F906, "23D1E 6D34 6E2F 6E6E 3D33 6ECB 6EC7 23ED1 6DF9 6F6E 23F5E 23F8E 6FC6 7039 701E"⟩,
    ⟨0x2F915, "701B 3D96 704A 707D 7077 70AD 20525 7145 24263 719C 243AB 7228 7235 7250 24608"⟩,
    ⟨0x2F924, "7280 7295 24735 24814 737A 738B 3EAC 73A5 3EB8 3EB8 7447 745C 7471 7485 74CA"⟩,
    ⟨0x2F933, "3F1B 7524 24C36 753E 24C92 7570 2219F 7610 24FA1 24FB8 25044 3FFC 4008 76F4"⟩,
    ⟨0x2F941, "250F3 250F2 25119 25133 771E 771F 771F 774A 4039 778B 4046 4096 2541D 784E 788C"⟩,
    ⟨0x2F950, "78CC 40E3 25626 7956 2569A 256C5 798F 79EB 412F 7A40 7A4A 7A4F 2597C 25AA7 25AA7"⟩,
    ⟨0x2F95F, "7AEE 4202 25BAB 7BC6 7BC9 4227 25C80 7CD2 42A0 7CE8 7CE3 7D00 25F86 7D63 4301"⟩,
    ⟨0x2F96E, "7DC7 7E02 7E45 4334 26228 26247 4359 262D9 7F7A 2633E 7F95 7FFA 8005 264DA 26523"⟩,
    ⟨0x2F97D, "8060 265A8 8070 2335F 43D5 80B2 8103 440B 813E 5AB5 267A7 267B5 23393 2339C 8201"⟩,
    ⟨0x2F98C, "8204 8F9E 446B 8291 828B 829D 52B3 82B1 82B3 82BD 82E6 26B3C 82E5 831D 8363 83AD"⟩,
    ⟨0x2F99C, "8323 83BD 83E7 8457 8353 83CA 83CC 83DC 26C36 26D6B 26CD5 452B 84F1 84F3 8516"⟩,
    ⟨0x2F9AB, "273CA 8564 26F2C 455D 4561 26FB1 270D2 456B 8650 865C 8667 8669 86A9 8688 870E"⟩,
    ⟨0x2F9BA, "86E2 8779 8728 876B 8786 45D7 87E1 8801 45F9 8860 8863 27667 88D7 88DE 4635 88FA"⟩,
    ⟨0x2F9CA, "34BB 278AE 27966 46BE 46C7 8AA0 8AED 8B8A 8C55 27CA8 8CAB 8CC1 8D1B 8D77 27F2F"⟩,
    ⟨0x2F9D9, "20804 8DCB 8DBC 8DF0 208DE 8ED4 8F38 285D2 285ED 9094 90F1 9111 2872E 911B 9238"⟩,
    ⟨0x2F9E8, "92D7 92D8 927C 93F9 9415 28BFA 958B 4995 95B7 28D77 49E6 96C3 5DB2 9723 29145"⟩,
    ⟨0x2F9F7, "2921A 4A6E 4A76 97E0 2940A 4AB2 29496 980B 980B 9829 295B6 98E2 4B33 9929 99A7"⟩,
    ⟨0x2FA06, "99C2 99FE 4BCE 29B30 9B12 9C40 9CFD 4CCE 4CED 9D67 2A0CE 4CF8 2A105 2A20E 2A291"⟩,
    ⟨0x2FA15, "9EBB 4D56 9EF9 9EFE 9F05 9F0F 9F16 9F3B 2A600"⟩]

end ProofScript.Unicode
