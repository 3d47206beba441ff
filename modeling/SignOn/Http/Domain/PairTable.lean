import SignOn.Text.Ranges

/-!
# Characters that merge

The pairs of characters for which there is a single character: a letter and a mark, or two signs.
Syllables of Hangul, which are made by a rule, are not listed.
-/

namespace SignOn.Http.Domain

set_option maxRecDepth 20000

/-- The characters that merge with one in front, each with those that may stand in front. -/
def mergingPairs : List (Nat × List Nat) :=
  [(0x300, [0x61, 0x65, 0x69, 0x6E, 0x6F, 0x75, 0x77, 0x79, 0xE2, 0xEA, 0xF4, 0xFC, 0x103, 0x113,
     0x14D, 0x1A1, 0x1B0, 0x3B1, 0x3B5, 0x3B7, 0x3B9, 0x3BF, 0x3C5, 0x3C9, 0x3CA, 0x3CB, 0x435,
     0x438, 0x1F00, 0x1F01, 0x1F10, 0x1F11, 0x1F20, 0x1F21, 0x1F30, 0x1F31, 0x1F40, 0x1F41, 0x1F50,
     0x1F51, 0x1F60, 0x1F61]),
   (0x301, [0x61, 0x63, 0x65, 0x67, 0x69, 0x6B, 0x6C, 0x6D, 0x6E, 0x6F, 0x70, 0x72, 0x73, 0x75,
     0x77, 0x79, 0x7A, 0xE2, 0xE5, 0xE6, 0xE7, 0xEA, 0xEF, 0xF4, 0xF5, 0xF8, 0xFC, 0x103, 0x113,
     0x14D, 0x169, 0x1A1, 0x1B0, 0x3B1, 0x3B5, 0x3B7, 0x3B9, 0x3BF, 0x3C5, 0x3C9, 0x3CA, 0x3CB,
     0x433, 0x43A, 0x1F00, 0x1F01, 0x1F10, 0x1F11, 0x1F20, 0x1F21, 0x1F30, 0x1F31, 0x1F40, 0x1F41,
     0x1F50, 0x1F51, 0x1F60, 0x1F61]),
   (0x302, [0x61, 0x63, 0x65, 0x67, 0x68, 0x69, 0x6A, 0x6F, 0x73, 0x75, 0x77, 0x79, 0x7A, 0x1EA1,
     0x1EB9, 0x1ECD]),
   (0x303, [0x61, 0x65, 0x69, 0x6E, 0x6F, 0x75, 0x76, 0x79, 0xE2, 0xEA, 0xF4, 0x103, 0x1A1, 0x1B0]),
   (0x304, [0x61, 0x65, 0x67, 0x69, 0x6F, 0x75, 0x79, 0xE4, 0xE6, 0xF5, 0xF6, 0xFC, 0x1EB, 0x227,
     0x22F, 0x3B1, 0x3B9, 0x3C5, 0x438, 0x443, 0x1E37, 0x1E5B]),
   (0x306, [0x61, 0x65, 0x67, 0x69, 0x6F, 0x75, 0x229, 0x3B1, 0x3B9, 0x3C5, 0x430, 0x435, 0x436,
     0x438, 0x443, 0x1EA1]),
   (0x307, [0x61, 0x62, 0x63, 0x64, 0x65, 0x66, 0x67, 0x68, 0x6D, 0x6E, 0x6F, 0x70, 0x72, 0x73,
     0x74, 0x77, 0x78, 0x79, 0x7A, 0x15B, 0x161, 0x1E63, 0x105D2, 0x105DA]),
   (0x308, [0x61, 0x65, 0x68, 0x69, 0x6F, 0x74, 0x75, 0x77, 0x78, 0x79, 0xF5, 0x16B, 0x3B9, 0x3C5,
     0x430, 0x435, 0x436, 0x437, 0x438, 0x43E, 0x443, 0x447, 0x44B, 0x44D, 0x456, 0x4D9, 0x4E9]),
   (0x309, [0x61, 0x65, 0x69, 0x6F, 0x75, 0x79, 0xE2, 0xEA, 0xF4, 0x103, 0x1A1, 0x1B0]),
   (0x30A, [0x61, 0x75, 0x77, 0x79]), (0x30B, [0x6F, 0x75, 0x443]),
   (0x30C, [0x61, 0x63, 0x64, 0x65, 0x67, 0x68, 0x69, 0x6A, 0x6B, 0x6C, 0x6E, 0x6F, 0x72, 0x73,
     0x74, 0x75, 0x7A, 0xFC, 0x292]),
   (0x30F, [0x61, 0x65, 0x69, 0x6F, 0x72, 0x75, 0x475]),
   (0x311, [0x61, 0x65, 0x69, 0x6F, 0x72, 0x75]),
   (0x313, [0x3B1, 0x3B5, 0x3B7, 0x3B9, 0x3BF, 0x3C1, 0x3C5, 0x3C9]),
   (0x314, [0x3B1, 0x3B5, 0x3B7, 0x3B9, 0x3BF, 0x3C1, 0x3C5, 0x3C9]), (0x31B, [0x6F, 0x75]),
   (0x323, [0x61, 0x62, 0x64, 0x65, 0x68, 0x69, 0x6B, 0x6C, 0x6D, 0x6E, 0x6F, 0x72, 0x73, 0x74,
     0x75, 0x76, 0x77, 0x79, 0x7A, 0x1A1, 0x1B0]),
   (0x324, [0x75]), (0x325, [0x61]), (0x326, [0x73, 0x74]),
   (0x327, [0x63, 0x64, 0x65, 0x67, 0x68, 0x6B, 0x6C, 0x6E, 0x72, 0x73, 0x74]),
   (0x328, [0x61, 0x65, 0x69, 0x6F, 0x75]), (0x32D, [0x64, 0x65, 0x6C, 0x6E, 0x74, 0x75]),
   (0x32E, [0x68]), (0x330, [0x65, 0x69, 0x75]),
   (0x331, [0x62, 0x64, 0x68, 0x6B, 0x6C, 0x6E, 0x72, 0x74, 0x7A]),
   (0x338, [0x3D, 0x2190, 0x2192, 0x2194, 0x21D0, 0x21D2, 0x21D4, 0x2203, 0x2208, 0x220B, 0x2223,
     0x2225, 0x223C, 0x2243, 0x2245, 0x2248, 0x224D, 0x2261, 0x2264, 0x2265, 0x2272, 0x2273, 0x2276,
     0x2277, 0x227A, 0x227B, 0x227C, 0x227D, 0x2282, 0x2283, 0x2286, 0x2287, 0x2291, 0x2292, 0x22A2,
     0x22A8, 0x22A9, 0x22AB, 0x22B2, 0x22B3, 0x22B4, 0x22B5]),
   (0x342, [0x3B1, 0x3B7, 0x3B9, 0x3C5, 0x3C9, 0x3CA, 0x3CB, 0x1F00, 0x1F01, 0x1F20, 0x1F21, 0x1F30,
     0x1F31, 0x1F50, 0x1F51, 0x1F60, 0x1F61]),
   (0x653, [0x627]), (0x654, [0x627, 0x648, 0x64A, 0x6C1, 0x6D2, 0x6D5]), (0x655, [0x627]),
   (0x93C, [0x928, 0x930, 0x933]), (0x9BE, [0x9C7]), (0x9D7, [0x9C7]), (0xB3E, [0xB47]),
   (0xB56, [0xB47]), (0xB57, [0xB47]), (0xBBE, [0xBC6, 0xBC7]), (0xBD7, [0xB92, 0xBC6]),
   (0xC56, [0xC46]), (0xCC2, [0xCC6]), (0xCD5, [0xCBF, 0xCC6, 0xCCA]), (0xCD6, [0xCC6]),
   (0xD3E, [0xD46, 0xD47]), (0xD57, [0xD46]), (0xDCA, [0xDD9, 0xDDC]), (0xDCF, [0xDD9]),
   (0xDDF, [0xDD9]), (0x102E, [0x1025]),
   (0x1B35, [0x1B05, 0x1B07, 0x1B09, 0x1B0B, 0x1B0D, 0x1B11, 0x1B3A, 0x1B3C, 0x1B3E, 0x1B3F,
     0x1B42]),
   (0x3099, [0x3046, 0x304B, 0x304D, 0x304F, 0x3051, 0x3053, 0x3055, 0x3057, 0x3059, 0x305B, 0x305D,
     0x305F, 0x3061, 0x3064, 0x3066, 0x3068, 0x306F, 0x3072, 0x3075, 0x3078, 0x307B, 0x309D, 0x30A6,
     0x30AB, 0x30AD, 0x30AF, 0x30B1, 0x30B3, 0x30B5, 0x30B7, 0x30B9, 0x30BB, 0x30BD, 0x30BF, 0x30C1,
     0x30C4, 0x30C6, 0x30C8, 0x30CF, 0x30D2, 0x30D5, 0x30D8, 0x30DB, 0x30EF, 0x30F0, 0x30F1, 0x30F2,
     0x30FD]),
   (0x309A, [0x306F, 0x3072, 0x3075, 0x3078, 0x307B, 0x30CF, 0x30D2, 0x30D5, 0x30D8, 0x30DB]),
   (0x110BA, [0x11099, 0x1109B, 0x110A5]), (0x11127, [0x11131, 0x11132]), (0x1133E, [0x11347]),
   (0x11357, [0x11347]), (0x113B8, [0x113C2]), (0x113BB, [0x11384]), (0x113C2, [0x1138B, 0x113C2]),
   (0x113C9, [0x11382, 0x11390, 0x113C2]), (0x114B0, [0x114B9]), (0x114BA, [0x114B9]),
   (0x114BD, [0x114B9]), (0x115AF, [0x115B8, 0x115B9]), (0x11930, [0x11935]), (0x1611E, [0x1611E]),
   (0x1611F, [0x1611E, 0x16121, 0x16122, 0x16129]), (0x16120, [0x1611E, 0x16121]),
   (0x16129, [0x1611E]), (0x16D67, [0x16D63, 0x16D67, 0x16D69])]

end SignOn.Http.Domain
