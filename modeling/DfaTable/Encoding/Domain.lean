import DfaTable.Encoding.Punycode
import DfaTable.Text.Normal
import DfaTable.Text.Quoted

/-!
# DfaTable.Encoding.Domain

The names of hosts: labels with dots between them. A label that is not of ASCII is prepared, which
folds its case and its compatible forms, and then written in the letters that a label may have.
-/

namespace DfaTable.Encoding.Domain

open Text

/-- Why a label cannot be written. -/
inductive Flaw where
  | length
  | start
  | character (c : Char)
  | mixedDirections
  | ends
deriving DecidableEq, Repr

def Flaw.message : Flaw → Text
  | .length => "label empty or too long".toList
  | .start => "Label starts with ACE prefix".toList
  | .character c => "Invalid character ".toList ++ quote [c]
  | .mixedDirections => "Violation of BIDI requirement 2".toList
  | .ends => "Violation of BIDI requirement 3".toList

/-! ## Preparing a label -/

/-- Boundaries of the runs of characters that are left out. -/
def droppedBoundaries : List Nat :=
  [0xAD, 0xAE, 0x34F, 0x350, 0x1806, 0x1807, 0x180B, 0x180E, 0x200B, 0x200E, 0x2060, 0x2061,
   0xFE00, 0xFE10, 0xFEFF, 0xFF00]

/-- Characters that do not fold to their lower case, in runs by the number of the first one, with
what they fold to and tabs in between. -/
def foldings : List (Nat × String) :=
  [(0xB5, "μ"), (0xDF, "ss"), (0x149, "ʼn"), (0x17F, "s"), (0x1F0, "j\u030c"), (0x345, "ι"),
   (0x37A, " ι"), (0x390, "ι\u0308\u0301"), (0x3B0, "υ\u0308\u0301"), (0x3C2, "σ"),
   (0x3D0, "β\tθ\tυ\tύ\tϋ\tφ\tπ"), (0x3F0, "κ\tρ\tσ"), (0x3F5, "ε"), (0x587, "եւ"),
   (0x1E96, "h\u0331\tt\u0308\tw\u030a\ty\u030a\taʾ\tṡ"), (0x1F50, "υ\u0313"),
   (0x1F52, "υ\u0313\u0300"), (0x1F54, "υ\u0313\u0301"), (0x1F56, "υ\u0313\u0342"),
   (0x1F80, "ἀι\tἁι\tἂι\tἃι\tἄι\tἅι\tἆι\tἇι\tἀι\tἁι\tἂι\tἃι\tἄι\tἅι\tἆι\tἇι\tἠι\tἡι\tἢι\tἣι"),
   (0x1F94, "ἤι\tἥι\tἦι\tἧι\tἠι\tἡι\tἢι\tἣι\tἤι\tἥι\tἦι\tἧι\tὠι\tὡι\tὢι\tὣι\tὤι\tὥι\tὦι\tὧι"),
   (0x1FA8, "ὠι\tὡι\tὢι\tὣι\tὤι\tὥι\tὦι\tὧι"), (0x1FB2, "ὰι\tαι\tάι"),
   (0x1FB6, "α\u0342\tα\u0342ι"), (0x1FBC, "αι"), (0x1FBE, "ι"), (0x1FC2, "ὴι\tηι\tήι"),
   (0x1FC6, "η\u0342\tη\u0342ι"), (0x1FCC, "ηι"), (0x1FD2, "ι\u0308\u0300\tι\u0308\u0301"),
   (0x1FD6, "ι\u0342\tι\u0308\u0342"), (0x1FE2, "υ\u0308\u0300\tυ\u0308\u0301\tρ\u0313"),
   (0x1FE6, "υ\u0342\tυ\u0308\u0342"), (0x1FF2, "ὼι\tωι\tώι"), (0x1FF6, "ω\u0342\tω\u0342ι"),
   (0x1FFC, "ωι"), (0x20A8, "rs"), (0x2102, "c\t°c"), (0x2107, "ɛ"), (0x2109, "°f"),
   (0x210B, "h\th\th"), (0x2110, "i\ti\tl"), (0x2115, "n\tno"), (0x2119, "p\tq\tr\tr\tr"),
   (0x2120, "sm\ttel\ttm"), (0x2124, "z"), (0x2128, "z"), (0x212C, "b\tc"), (0x2130, "e\tf"),
   (0x2133, "m"), (0x213E, "γ\tπ"), (0x2145, "d"), (0x3371, "hpa"), (0x3373, "au"),
   (0x3375, "ov"), (0x3380, "pa\tna\tμa\tma\tka\tkb\tmb\tgb"), (0x338A, "pf\tnf\tμf"),
   (0x3390, "hz\tkhz\tmhz\tghz\tthz"), (0x33A9, "pa\tkpa\tmpa\tgpa"),
   (0x33B4, "pv\tnv\tμv\tmv\tkv\tmv\tpw\tnw\tμw\tmw\tkw\tmw\tkω\tmω"), (0x33C3, "bq"),
   (0x33C6, "c∕kg\tco.\tdb\tgy"), (0x33CB, "hp"), (0x33CD, "kk\tkm"), (0x33D7, "ph"),
   (0x33D9, "ppm\tpr"), (0x33DC, "sv\twb"), (0xFB00, "ff\tfi\tfl\tffi\tffl\tst\tst"),
   (0xFB13, "մն\tմե\tմի\tվն\tմխ"),
   (0x1D400, "a\tb\tc\td\te\tf\tg\th\ti\tj\tk\tl\tm\tn\to\tp\tq\tr\ts\tt\tu\tv\tw\tx\ty\tz"),
   (0x1D434, "a\tb\tc\td\te\tf\tg\th\ti\tj\tk\tl\tm\tn\to\tp\tq\tr\ts\tt\tu\tv\tw\tx\ty\tz"),
   (0x1D468, "a\tb\tc\td\te\tf\tg\th\ti\tj\tk\tl\tm\tn\to\tp\tq\tr\ts\tt\tu\tv\tw\tx\ty\tz"),
   (0x1D49C, "a"), (0x1D49E, "c\td"), (0x1D4A2, "g"), (0x1D4A5, "j\tk"), (0x1D4A9, "n\to\tp\tq"),
   (0x1D4AE, "s\tt\tu\tv\tw\tx\ty\tz"),
   (0x1D4D0, "a\tb\tc\td\te\tf\tg\th\ti\tj\tk\tl\tm\tn\to\tp\tq\tr\ts\tt\tu\tv\tw\tx\ty\tz"),
   (0x1D504, "a\tb"), (0x1D507, "d\te\tf\tg"), (0x1D50D, "j\tk\tl\tm\tn\to\tp\tq"),
   (0x1D516, "s\tt\tu\tv\tw\tx\ty"), (0x1D538, "a\tb"), (0x1D53B, "d\te\tf\tg"),
   (0x1D540, "i\tj\tk\tl\tm"), (0x1D546, "o"), (0x1D54A, "s\tt\tu\tv\tw\tx\ty"),
   (0x1D56C, "a\tb\tc\td\te\tf\tg\th\ti\tj\tk\tl\tm\tn\to\tp\tq\tr\ts\tt\tu\tv\tw\tx\ty\tz"),
   (0x1D5A0, "a\tb\tc\td\te\tf\tg\th\ti\tj\tk\tl\tm\tn\to\tp\tq\tr\ts\tt\tu\tv\tw\tx\ty\tz"),
   (0x1D5D4, "a\tb\tc\td\te\tf\tg\th\ti\tj\tk\tl\tm\tn\to\tp\tq\tr\ts\tt\tu\tv\tw\tx\ty\tz"),
   (0x1D608, "a\tb\tc\td\te\tf\tg\th\ti\tj\tk\tl\tm\tn\to\tp\tq\tr\ts\tt\tu\tv\tw\tx\ty\tz"),
   (0x1D63C, "a\tb\tc\td\te\tf\tg\th\ti\tj\tk\tl\tm\tn\to\tp\tq\tr\ts\tt\tu\tv\tw\tx\ty\tz"),
   (0x1D670, "a\tb\tc\td\te\tf\tg\th\ti\tj\tk\tl\tm\tn\to\tp\tq\tr\ts\tt\tu\tv\tw\tx\ty\tz"),
   (0x1D6A8, "α\tβ\tγ\tδ\tε\tζ\tη\tθ\tι\tκ\tλ\tμ\tν\tξ\tο\tπ\tρ\tθ\tσ\tτ\tυ\tφ\tχ\tψ\tω"),
   (0x1D6D3, "σ"),
   (0x1D6E2, "α\tβ\tγ\tδ\tε\tζ\tη\tθ\tι\tκ\tλ\tμ\tν\tξ\tο\tπ\tρ\tθ\tσ\tτ\tυ\tφ\tχ\tψ\tω"),
   (0x1D70D, "σ"),
   (0x1D71C, "α\tβ\tγ\tδ\tε\tζ\tη\tθ\tι\tκ\tλ\tμ\tν\tξ\tο\tπ\tρ\tθ\tσ\tτ\tυ\tφ\tχ\tψ\tω"),
   (0x1D747, "σ"),
   (0x1D756, "α\tβ\tγ\tδ\tε\tζ\tη\tθ\tι\tκ\tλ\tμ\tν\tξ\tο\tπ\tρ\tθ\tσ\tτ\tυ\tφ\tχ\tψ\tω"),
   (0x1D781, "σ"),
   (0x1D790, "α\tβ\tγ\tδ\tε\tζ\tη\tθ\tι\tκ\tλ\tμ\tν\tξ\tο\tπ\tρ\tθ\tσ\tτ\tυ\tφ\tχ\tψ\tω"),
   (0x1D7BB, "σ")]

/-- Boundaries of the runs of characters that no label may hold. -/
def prohibitedBoundaries : List Nat :=
  [0x80, 0xA1, 0x340, 0x342, 0x6DD, 0x6DE, 0x70F, 0x710, 0x1680, 0x1681, 0x180E, 0x180F, 0x2000,
   0x2010, 0x2028, 0x2030, 0x205F, 0x2064, 0x206A, 0x2070, 0x2FF0, 0x2FFC, 0x3000, 0x3001, 0xD800,
   0xF900, 0xFDD0, 0xFDF0, 0xFEFF, 0xFF00, 0xFFF9, 0x10000, 0x1D173, 0x1D17B, 0x1FFFE, 0x20000,
   0x2FFFE, 0x30000, 0x3FFFE, 0x40000, 0x4FFFE, 0x50000, 0x5FFFE, 0x60000, 0x6FFFE, 0x70000,
   0x7FFFE, 0x80000, 0x8FFFE, 0x90000, 0x9FFFE, 0xA0000, 0xAFFFE, 0xB0000, 0xBFFFE, 0xC0000,
   0xCFFFE, 0xD0000, 0xDFFFE, 0xE0000, 0xE0001, 0xE0002, 0xE0020, 0xE0080, 0xEFFFE, 0x110000]

/-- Boundaries of the runs of characters that are written from right to left. -/
def leftwardBoundaries : List Nat :=
  [0x5BE, 0x5BF, 0x5C0, 0x5C1, 0x5C3, 0x5C4, 0x5D0, 0x5EB, 0x5F0, 0x5F5, 0x61B, 0x61C, 0x61F,
   0x620, 0x621, 0x63B, 0x640, 0x64B, 0x66D, 0x670, 0x671, 0x6D6, 0x6DD, 0x6DE, 0x6E5, 0x6E7,
   0x6FA, 0x6FF, 0x700, 0x70E, 0x710, 0x711, 0x712, 0x72D, 0x780, 0x7A6, 0x7B1, 0x7B2, 0x200F,
   0x2010, 0xFB1D, 0xFB1E, 0xFB1F, 0xFB29, 0xFB2A, 0xFB37, 0xFB38, 0xFB3D, 0xFB3E, 0xFB3F, 0xFB40,
   0xFB42, 0xFB43, 0xFB45, 0xFB46, 0xFBB2, 0xFBD3, 0xFD3E, 0xFD50, 0xFD90, 0xFD92, 0xFDC8, 0xFDF0,
   0xFDFD, 0xFE70, 0xFE75, 0xFE76, 0xFEFD]

/-- Boundaries of the runs of characters that are written from left to right. -/
def rightwardBoundaries : List Nat :=
  [0x41, 0x5B, 0x61, 0x7B, 0xAA, 0xAB, 0xB5, 0xB6, 0xBA, 0xBB, 0xC0, 0xD7, 0xD8, 0xF7, 0xF8,
   0x221, 0x222, 0x234, 0x250, 0x2AE, 0x2B0, 0x2B9, 0x2BB, 0x2C2, 0x2D0, 0x2D2, 0x2E0, 0x2E5,
   0x2EE, 0x2EF, 0x37A, 0x37B, 0x386, 0x387, 0x388, 0x38B, 0x38C, 0x38D, 0x38E, 0x3A2, 0x3A3,
   0x3CF, 0x3D0, 0x3F6, 0x400, 0x483, 0x48A, 0x4CF, 0x4D0, 0x4F6, 0x4F8, 0x4FA, 0x500, 0x510,
   0x531, 0x557, 0x559, 0x560, 0x561, 0x588, 0x589, 0x58A, 0x903, 0x904, 0x905, 0x93A, 0x93D,
   0x941, 0x949, 0x94D, 0x950, 0x951, 0x958, 0x962, 0x964, 0x971, 0x982, 0x984, 0x985, 0x98D,
   0x98F, 0x991, 0x993, 0x9A9, 0x9AA, 0x9B1, 0x9B2, 0x9B3, 0x9B6, 0x9BA, 0x9BE, 0x9C1, 0x9C7,
   0x9C9, 0x9CB, 0x9CD, 0x9D7, 0x9D8, 0x9DC, 0x9DE, 0x9DF, 0x9E2, 0x9E6, 0x9F2, 0x9F4, 0x9FB,
   0xA05, 0xA0B, 0xA0F, 0xA11, 0xA13, 0xA29, 0xA2A, 0xA31, 0xA32, 0xA34, 0xA35, 0xA37, 0xA38,
   0xA3A, 0xA3E, 0xA41, 0xA59, 0xA5D, 0xA5E, 0xA5F, 0xA66, 0xA70, 0xA72, 0xA75, 0xA83, 0xA84,
   0xA85, 0xA8C, 0xA8D, 0xA8E, 0xA8F, 0xA92, 0xA93, 0xAA9, 0xAAA, 0xAB1, 0xAB2, 0xAB4, 0xAB5,
   0xABA, 0xABD, 0xAC1, 0xAC9, 0xACA, 0xACB, 0xACD, 0xAD0, 0xAD1, 0xAE0, 0xAE1, 0xAE6, 0xAF0,
   0xB02, 0xB04, 0xB05, 0xB0D, 0xB0F, 0xB11, 0xB13, 0xB29, 0xB2A, 0xB31, 0xB32, 0xB34, 0xB36,
   0xB3A, 0xB3D, 0xB3F, 0xB40, 0xB41, 0xB47, 0xB49, 0xB4B, 0xB4D, 0xB57, 0xB58, 0xB5C, 0xB5E,
   0xB5F, 0xB62, 0xB66, 0xB71, 0xB83, 0xB84, 0xB85, 0xB8B, 0xB8E, 0xB91, 0xB92, 0xB96, 0xB99,
   0xB9B, 0xB9C, 0xB9D, 0xB9E, 0xBA0, 0xBA3, 0xBA5, 0xBA8, 0xBAB, 0xBAE, 0xBB6, 0xBB7, 0xBBA,
   0xBBE, 0xBC0, 0xBC1, 0xBC3, 0xBC6, 0xBC9, 0xBCA, 0xBCD, 0xBD7, 0xBD8, 0xBE7, 0xBF3, 0xC01,
   0xC04, 0xC05, 0xC0D, 0xC0E, 0xC11, 0xC12, 0xC29, 0xC2A, 0xC34, 0xC35, 0xC3A, 0xC41, 0xC45,
   0xC60, 0xC62, 0xC66, 0xC70, 0xC82, 0xC84, 0xC85, 0xC8D, 0xC8E, 0xC91, 0xC92, 0xCA9, 0xCAA,
   0xCB4, 0xCB5, 0xCBA, 0xCBE, 0xCBF, 0xCC0, 0xCC5, 0xCC7, 0xCC9, 0xCCA, 0xCCC, 0xCD5, 0xCD7,
   0xCDE, 0xCDF, 0xCE0, 0xCE2, 0xCE6, 0xCF0, 0xD02, 0xD04, 0xD05, 0xD0D, 0xD0E, 0xD11, 0xD12,
   0xD29, 0xD2A, 0xD3A, 0xD3E, 0xD41, 0xD46, 0xD49, 0xD4A, 0xD4D, 0xD57, 0xD58, 0xD60, 0xD62,
   0xD66, 0xD70, 0xD82, 0xD84, 0xD85, 0xD97, 0xD9A, 0xDB2, 0xDB3, 0xDBC, 0xDBD, 0xDBE, 0xDC0,
   0xDC7, 0xDCF, 0xDD2, 0xDD8, 0xDE0, 0xDF2, 0xDF5, 0xE01, 0xE31, 0xE32, 0xE34, 0xE40, 0xE47,
   0xE4F, 0xE5C, 0xE81, 0xE83, 0xE84, 0xE85, 0xE87, 0xE89, 0xE8A, 0xE8B, 0xE8D, 0xE8E, 0xE94,
   0xE98, 0xE99, 0xEA0, 0xEA1, 0xEA4, 0xEA5, 0xEA6, 0xEA7, 0xEA8, 0xEAA, 0xEAC, 0xEAD, 0xEB1,
   0xEB2, 0xEB4, 0xEBD, 0xEBE, 0xEC0, 0xEC5, 0xEC6, 0xEC7, 0xED0, 0xEDA, 0xEDC, 0xEDE, 0xF00,
   0xF18, 0xF1A, 0xF35, 0xF36, 0xF37, 0xF38, 0xF39, 0xF3E, 0xF48, 0xF49, 0xF6B, 0xF7F, 0xF80,
   0xF85, 0xF86, 0xF88, 0xF8C, 0xFBE, 0xFC6, 0xFC7, 0xFCD, 0xFCF, 0xFD0, 0x1000, 0x1022, 0x1023,
   0x1028, 0x1029, 0x102B, 0x102C, 0x102D, 0x1031, 0x1032, 0x1038, 0x1039, 0x1040, 0x1058, 0x10A0,
   0x10C6, 0x10D0, 0x10F9, 0x10FB, 0x10FC, 0x1100, 0x115A, 0x115F, 0x11A3, 0x11A8, 0x11FA, 0x1200,
   0x1207, 0x1208, 0x1247, 0x1248, 0x1249, 0x124A, 0x124E, 0x1250, 0x1257, 0x1258, 0x1259, 0x125A,
   0x125E, 0x1260, 0x1287, 0x1288, 0x1289, 0x128A, 0x128E, 0x1290, 0x12AF, 0x12B0, 0x12B1, 0x12B2,
   0x12B6, 0x12B8, 0x12BF, 0x12C0, 0x12C1, 0x12C2, 0x12C6, 0x12C8, 0x12CF, 0x12D0, 0x12D7, 0x12D8,
   0x12EF, 0x12F0, 0x130F, 0x1310, 0x1311, 0x1312, 0x1316, 0x1318, 0x131F, 0x1320, 0x1347, 0x1348,
   0x135B, 0x1361, 0x137D, 0x13A0, 0x13F5, 0x1401, 0x1677, 0x1681, 0x169B, 0x16A0, 0x16F1, 0x1700,
   0x170D, 0x170E, 0x1712, 0x1720, 0x1732, 0x1735, 0x1737, 0x1740, 0x1752, 0x1760, 0x176D, 0x176E,
   0x1771, 0x1780, 0x17B7, 0x17BE, 0x17C6, 0x17C7, 0x17C9, 0x17D4, 0x17DB, 0x17DC, 0x17DD, 0x17E0,
   0x17EA, 0x1810, 0x181A, 0x1820, 0x1878, 0x1880, 0x18A9, 0x1E00, 0x1E9C, 0x1EA0, 0x1EFA, 0x1F00,
   0x1F16, 0x1F18, 0x1F1E, 0x1F20, 0x1F46, 0x1F48, 0x1F4E, 0x1F50, 0x1F58, 0x1F59, 0x1F5A, 0x1F5B,
   0x1F5C, 0x1F5D, 0x1F5E, 0x1F5F, 0x1F7E, 0x1F80, 0x1FB5, 0x1FB6, 0x1FBD, 0x1FBE, 0x1FBF, 0x1FC2,
   0x1FC5, 0x1FC6, 0x1FCD, 0x1FD0, 0x1FD4, 0x1FD6, 0x1FDC, 0x1FE0, 0x1FED, 0x1FF2, 0x1FF5, 0x1FF6,
   0x1FFD, 0x200E, 0x200F, 0x2071, 0x2072, 0x207F, 0x2080, 0x2102, 0x2103, 0x2107, 0x2108, 0x210A,
   0x2114, 0x2115, 0x2116, 0x2119, 0x211E, 0x2124, 0x2125, 0x2126, 0x2127, 0x2128, 0x2129, 0x212A,
   0x212E, 0x212F, 0x2132, 0x2133, 0x213A, 0x213D, 0x2140, 0x2145, 0x214A, 0x2160, 0x2184, 0x2336,
   0x237B, 0x2395, 0x2396, 0x249C, 0x24EA, 0x3005, 0x3008, 0x3021, 0x302A, 0x3031, 0x3036, 0x3038,
   0x303D, 0x3041, 0x3097, 0x309D, 0x30A0, 0x30A1, 0x30FB, 0x30FC, 0x3100, 0x3105, 0x312D, 0x3131,
   0x318F, 0x3190, 0x31B8, 0x31F0, 0x321D, 0x3220, 0x3244, 0x3260, 0x327C, 0x327F, 0x32B1, 0x32C0,
   0x32CC, 0x32D0, 0x32FF, 0x3300, 0x3377, 0x337B, 0x33DE, 0x33E0, 0x33FF, 0x3400, 0x4DB6, 0x4E00,
   0x9FA6, 0xA000, 0xA48D, 0xAC00, 0xD7A4, 0xD800, 0xFA2E, 0xFA30, 0xFA6B, 0xFB00, 0xFB07, 0xFB13,
   0xFB18, 0xFF21, 0xFF3B, 0xFF41, 0xFF5B, 0xFF66, 0xFFBF, 0xFFC2, 0xFFC8, 0xFFCA, 0xFFD0, 0xFFD2,
   0xFFD8, 0xFFDA, 0xFFDD, 0x10300, 0x1031F, 0x10320, 0x10324, 0x10330, 0x1034B, 0x10400, 0x10426,
   0x10428, 0x1044E, 0x1D000, 0x1D0F6, 0x1D100, 0x1D127, 0x1D12A, 0x1D167, 0x1D16A, 0x1D173,
   0x1D183, 0x1D185, 0x1D18C, 0x1D1AA, 0x1D1AE, 0x1D1DE, 0x1D400, 0x1D455, 0x1D456, 0x1D49D,
   0x1D49E, 0x1D4A0, 0x1D4A2, 0x1D4A3, 0x1D4A5, 0x1D4A7, 0x1D4A9, 0x1D4AD, 0x1D4AE, 0x1D4BA,
   0x1D4BB, 0x1D4BC, 0x1D4BD, 0x1D4C1, 0x1D4C2, 0x1D4C4, 0x1D4C5, 0x1D506, 0x1D507, 0x1D50B,
   0x1D50D, 0x1D515, 0x1D516, 0x1D51D, 0x1D51E, 0x1D53A, 0x1D53B, 0x1D53F, 0x1D540, 0x1D545,
   0x1D546, 0x1D547, 0x1D54A, 0x1D551, 0x1D552, 0x1D6A4, 0x1D6A8, 0x1D7CA, 0x20000, 0x2A6D7,
   0x2F800, 0x2FA1E, 0xF0000, 0xFFFFE, 0x100000, 0x10FFFE]

/-- What a character folds to. -/
def folded (c : Char) : Text :=
  match (foldings.takeWhile (·.1 ≤ c.toNat)).getLast? with
  | some (first, run) => (split '\t' run.toList).getD (c.toNat - first) (lowercase [c])
  | none => lowercase [c]

/-- What a character folds to where its compatible forms are folded as well. -/
def mapped (c : Char) : Text :=
  let once := Normal.form (folded c)
  let twice := Normal.form (once.flatMap folded)
  if once = twice then folded c else twice

/-- A label is written in one direction: from right to left if its ends are. -/
def checkDirections (label : Text) : Except Flaw Unit := do
  let isLeftward := isWithin leftwardBoundaries
  if label.any isLeftward then
    if label.any (isWithin rightwardBoundaries) then throw .mixedDirections
    if !(label.head?.any isLeftward && label.getLast?.any isLeftward) then throw .ends

/-- The label in the form in which labels are compared. -/
def prepared (label : Text) : Except Flaw Text := do
  let kept := label.filter (!isWithin droppedBoundaries ·)
  let form := Normal.form (kept.flatMap mapped)
  match form.find? (isWithin prohibitedBoundaries) with
  | some c => throw (.character c)
  | none =>
    checkDirections form
    return form

/-! ## Writing a label -/

/-- The beginning of a label that stands for one that is not of ASCII. -/
def acePrefix : Text := "xn--".toList

/-- A label is neither empty nor longer than 63 characters. -/
def bounded (label : Text) : Except Flaw Text :=
  if label.isEmpty || 64 ≤ label.length then .error .length else .ok label

/-- The ASCII text of a label. -/
def written (label : Text) : Except Flaw Text := do
  if label.all (·.toNat < 128) then bounded label
  else
    let form ← prepared label
    if form.all (·.toNat < 128) then bounded form
    else if acePrefix.isPrefixOf form then throw .start
    else bounded (acePrefix ++ Punycode.encode form)

/-- The characters that count as dots. -/
def isDot (c : Char) : Bool := c = '.' || c = '。' || c = '．' || c = '｡'

end DfaTable.Encoding.Domain
