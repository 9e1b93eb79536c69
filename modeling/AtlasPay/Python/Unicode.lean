import AtlasPay.Python.Basic

/-!
# The Unicode that Python's strings know

`str.upper`, `str.isdigit` and `str.strip` over all code points, as tables of the Unicode database
of the interpreter that the service is deployed on (Python 3.11, Unicode 14). Upper-casing is the
full mapping: most letters map to one, some to several.
-/

namespace AtlasPay

/-- The code points from `first` to `last` that are multiples of `step` away from `first`. -/
structure CodeRange where
  first : ℕ
  last : ℕ
  step : ℕ

/-- The code point is one of the range's. -/
def CodeRange.contains (range : CodeRange) (code : ℕ) : Bool :=
  range.first.ble code && (code.ble range.last && (code - range.first) % range.step == 0)

/-- A range of code points whose upper-case forms are as far apart, from `image` on. -/
structure UpperRange extends CodeRange where
  image : ℕ

/-- The code points whose upper-case form is one other code point. -/
def upperRanges : List UpperRange :=
  [⟨⟨0x61, 0x7A, 1⟩, 0x41⟩, ⟨⟨0xB5, 0xB5, 1⟩, 0x39C⟩, ⟨⟨0xE0, 0xF6, 1⟩, 0xC0⟩,
   ⟨⟨0xF8, 0xFE, 1⟩, 0xD8⟩, ⟨⟨0xFF, 0xFF, 1⟩, 0x178⟩, ⟨⟨0x101, 0x12F, 2⟩, 0x100⟩,
   ⟨⟨0x131, 0x131, 1⟩, 0x49⟩, ⟨⟨0x133, 0x137, 2⟩, 0x132⟩, ⟨⟨0x13A, 0x148, 2⟩, 0x139⟩,
   ⟨⟨0x14B, 0x177, 2⟩, 0x14A⟩, ⟨⟨0x17A, 0x17E, 2⟩, 0x179⟩, ⟨⟨0x17F, 0x17F, 1⟩, 0x53⟩,
   ⟨⟨0x180, 0x180, 1⟩, 0x243⟩, ⟨⟨0x183, 0x185, 2⟩, 0x182⟩, ⟨⟨0x188, 0x188, 1⟩, 0x187⟩,
   ⟨⟨0x18C, 0x18C, 1⟩, 0x18B⟩, ⟨⟨0x192, 0x192, 1⟩, 0x191⟩, ⟨⟨0x195, 0x195, 1⟩, 0x1F6⟩,
   ⟨⟨0x199, 0x199, 1⟩, 0x198⟩, ⟨⟨0x19A, 0x19A, 1⟩, 0x23D⟩, ⟨⟨0x19E, 0x19E, 1⟩, 0x220⟩,
   ⟨⟨0x1A1, 0x1A5, 2⟩, 0x1A0⟩, ⟨⟨0x1A8, 0x1A8, 1⟩, 0x1A7⟩, ⟨⟨0x1AD, 0x1AD, 1⟩, 0x1AC⟩,
   ⟨⟨0x1B0, 0x1B0, 1⟩, 0x1AF⟩, ⟨⟨0x1B4, 0x1B6, 2⟩, 0x1B3⟩, ⟨⟨0x1B9, 0x1B9, 1⟩, 0x1B8⟩,
   ⟨⟨0x1BD, 0x1BD, 1⟩, 0x1BC⟩, ⟨⟨0x1BF, 0x1BF, 1⟩, 0x1F7⟩, ⟨⟨0x1C5, 0x1C5, 1⟩, 0x1C4⟩,
   ⟨⟨0x1C6, 0x1C6, 1⟩, 0x1C4⟩, ⟨⟨0x1C8, 0x1C8, 1⟩, 0x1C7⟩, ⟨⟨0x1C9, 0x1C9, 1⟩, 0x1C7⟩,
   ⟨⟨0x1CB, 0x1CB, 1⟩, 0x1CA⟩, ⟨⟨0x1CC, 0x1CC, 1⟩, 0x1CA⟩, ⟨⟨0x1CE, 0x1DC, 2⟩, 0x1CD⟩,
   ⟨⟨0x1DD, 0x1DD, 1⟩, 0x18E⟩, ⟨⟨0x1DF, 0x1EF, 2⟩, 0x1DE⟩, ⟨⟨0x1F2, 0x1F2, 1⟩, 0x1F1⟩,
   ⟨⟨0x1F3, 0x1F3, 1⟩, 0x1F1⟩, ⟨⟨0x1F5, 0x1F5, 1⟩, 0x1F4⟩, ⟨⟨0x1F9, 0x21F, 2⟩, 0x1F8⟩,
   ⟨⟨0x223, 0x233, 2⟩, 0x222⟩, ⟨⟨0x23C, 0x23C, 1⟩, 0x23B⟩, ⟨⟨0x23F, 0x240, 1⟩, 0x2C7E⟩,
   ⟨⟨0x242, 0x242, 1⟩, 0x241⟩, ⟨⟨0x247, 0x24F, 2⟩, 0x246⟩, ⟨⟨0x250, 0x250, 1⟩, 0x2C6F⟩,
   ⟨⟨0x251, 0x251, 1⟩, 0x2C6D⟩, ⟨⟨0x252, 0x252, 1⟩, 0x2C70⟩, ⟨⟨0x253, 0x253, 1⟩, 0x181⟩,
   ⟨⟨0x254, 0x254, 1⟩, 0x186⟩, ⟨⟨0x256, 0x257, 1⟩, 0x189⟩, ⟨⟨0x259, 0x259, 1⟩, 0x18F⟩,
   ⟨⟨0x25B, 0x25B, 1⟩, 0x190⟩, ⟨⟨0x25C, 0x25C, 1⟩, 0xA7AB⟩, ⟨⟨0x260, 0x260, 1⟩, 0x193⟩,
   ⟨⟨0x261, 0x261, 1⟩, 0xA7AC⟩, ⟨⟨0x263, 0x263, 1⟩, 0x194⟩, ⟨⟨0x265, 0x265, 1⟩, 0xA78D⟩,
   ⟨⟨0x266, 0x266, 1⟩, 0xA7AA⟩, ⟨⟨0x268, 0x268, 1⟩, 0x197⟩, ⟨⟨0x269, 0x269, 1⟩, 0x196⟩,
   ⟨⟨0x26A, 0x26A, 1⟩, 0xA7AE⟩, ⟨⟨0x26B, 0x26B, 1⟩, 0x2C62⟩, ⟨⟨0x26C, 0x26C, 1⟩, 0xA7AD⟩,
   ⟨⟨0x26F, 0x26F, 1⟩, 0x19C⟩, ⟨⟨0x271, 0x271, 1⟩, 0x2C6E⟩, ⟨⟨0x272, 0x272, 1⟩, 0x19D⟩,
   ⟨⟨0x275, 0x275, 1⟩, 0x19F⟩, ⟨⟨0x27D, 0x27D, 1⟩, 0x2C64⟩, ⟨⟨0x280, 0x280, 1⟩, 0x1A6⟩,
   ⟨⟨0x282, 0x282, 1⟩, 0xA7C5⟩, ⟨⟨0x283, 0x283, 1⟩, 0x1A9⟩, ⟨⟨0x287, 0x287, 1⟩, 0xA7B1⟩,
   ⟨⟨0x288, 0x288, 1⟩, 0x1AE⟩, ⟨⟨0x289, 0x289, 1⟩, 0x244⟩, ⟨⟨0x28A, 0x28B, 1⟩, 0x1B1⟩,
   ⟨⟨0x28C, 0x28C, 1⟩, 0x245⟩, ⟨⟨0x292, 0x292, 1⟩, 0x1B7⟩, ⟨⟨0x29D, 0x29D, 1⟩, 0xA7B2⟩,
   ⟨⟨0x29E, 0x29E, 1⟩, 0xA7B0⟩, ⟨⟨0x345, 0x345, 1⟩, 0x399⟩, ⟨⟨0x371, 0x373, 2⟩, 0x370⟩,
   ⟨⟨0x377, 0x377, 1⟩, 0x376⟩, ⟨⟨0x37B, 0x37D, 1⟩, 0x3FD⟩, ⟨⟨0x3AC, 0x3AC, 1⟩, 0x386⟩,
   ⟨⟨0x3AD, 0x3AF, 1⟩, 0x388⟩, ⟨⟨0x3B1, 0x3C1, 1⟩, 0x391⟩, ⟨⟨0x3C2, 0x3C2, 1⟩, 0x3A3⟩,
   ⟨⟨0x3C3, 0x3CB, 1⟩, 0x3A3⟩, ⟨⟨0x3CC, 0x3CC, 1⟩, 0x38C⟩, ⟨⟨0x3CD, 0x3CE, 1⟩, 0x38E⟩,
   ⟨⟨0x3D0, 0x3D0, 1⟩, 0x392⟩, ⟨⟨0x3D1, 0x3D1, 1⟩, 0x398⟩, ⟨⟨0x3D5, 0x3D5, 1⟩, 0x3A6⟩,
   ⟨⟨0x3D6, 0x3D6, 1⟩, 0x3A0⟩, ⟨⟨0x3D7, 0x3D7, 1⟩, 0x3CF⟩, ⟨⟨0x3D9, 0x3EF, 2⟩, 0x3D8⟩,
   ⟨⟨0x3F0, 0x3F0, 1⟩, 0x39A⟩, ⟨⟨0x3F1, 0x3F1, 1⟩, 0x3A1⟩, ⟨⟨0x3F2, 0x3F2, 1⟩, 0x3F9⟩,
   ⟨⟨0x3F3, 0x3F3, 1⟩, 0x37F⟩, ⟨⟨0x3F5, 0x3F5, 1⟩, 0x395⟩, ⟨⟨0x3F8, 0x3F8, 1⟩, 0x3F7⟩,
   ⟨⟨0x3FB, 0x3FB, 1⟩, 0x3FA⟩, ⟨⟨0x430, 0x44F, 1⟩, 0x410⟩, ⟨⟨0x450, 0x45F, 1⟩, 0x400⟩,
   ⟨⟨0x461, 0x481, 2⟩, 0x460⟩, ⟨⟨0x48B, 0x4BF, 2⟩, 0x48A⟩, ⟨⟨0x4C2, 0x4CE, 2⟩, 0x4C1⟩,
   ⟨⟨0x4CF, 0x4CF, 1⟩, 0x4C0⟩, ⟨⟨0x4D1, 0x52F, 2⟩, 0x4D0⟩, ⟨⟨0x561, 0x586, 1⟩, 0x531⟩,
   ⟨⟨0x10D0, 0x10FA, 1⟩, 0x1C90⟩, ⟨⟨0x10FD, 0x10FF, 1⟩, 0x1CBD⟩, ⟨⟨0x13F8, 0x13FD, 1⟩, 0x13F0⟩,
   ⟨⟨0x1C80, 0x1C80, 1⟩, 0x412⟩, ⟨⟨0x1C81, 0x1C81, 1⟩, 0x414⟩, ⟨⟨0x1C82, 0x1C82, 1⟩, 0x41E⟩,
   ⟨⟨0x1C83, 0x1C84, 1⟩, 0x421⟩, ⟨⟨0x1C85, 0x1C85, 1⟩, 0x422⟩, ⟨⟨0x1C86, 0x1C86, 1⟩, 0x42A⟩,
   ⟨⟨0x1C87, 0x1C87, 1⟩, 0x462⟩, ⟨⟨0x1C88, 0x1C88, 1⟩, 0xA64A⟩, ⟨⟨0x1D79, 0x1D79, 1⟩, 0xA77D⟩,
   ⟨⟨0x1D7D, 0x1D7D, 1⟩, 0x2C63⟩, ⟨⟨0x1D8E, 0x1D8E, 1⟩, 0xA7C6⟩, ⟨⟨0x1E01, 0x1E95, 2⟩, 0x1E00⟩,
   ⟨⟨0x1E9B, 0x1E9B, 1⟩, 0x1E60⟩, ⟨⟨0x1EA1, 0x1EFF, 2⟩, 0x1EA0⟩, ⟨⟨0x1F00, 0x1F07, 1⟩, 0x1F08⟩,
   ⟨⟨0x1F10, 0x1F15, 1⟩, 0x1F18⟩, ⟨⟨0x1F20, 0x1F27, 1⟩, 0x1F28⟩, ⟨⟨0x1F30, 0x1F37, 1⟩, 0x1F38⟩,
   ⟨⟨0x1F40, 0x1F45, 1⟩, 0x1F48⟩, ⟨⟨0x1F51, 0x1F57, 2⟩, 0x1F59⟩, ⟨⟨0x1F60, 0x1F67, 1⟩, 0x1F68⟩,
   ⟨⟨0x1F70, 0x1F71, 1⟩, 0x1FBA⟩, ⟨⟨0x1F72, 0x1F75, 1⟩, 0x1FC8⟩, ⟨⟨0x1F76, 0x1F77, 1⟩, 0x1FDA⟩,
   ⟨⟨0x1F78, 0x1F79, 1⟩, 0x1FF8⟩, ⟨⟨0x1F7A, 0x1F7B, 1⟩, 0x1FEA⟩, ⟨⟨0x1F7C, 0x1F7D, 1⟩, 0x1FFA⟩,
   ⟨⟨0x1FB0, 0x1FB1, 1⟩, 0x1FB8⟩, ⟨⟨0x1FBE, 0x1FBE, 1⟩, 0x399⟩, ⟨⟨0x1FD0, 0x1FD1, 1⟩, 0x1FD8⟩,
   ⟨⟨0x1FE0, 0x1FE1, 1⟩, 0x1FE8⟩, ⟨⟨0x1FE5, 0x1FE5, 1⟩, 0x1FEC⟩, ⟨⟨0x214E, 0x214E, 1⟩, 0x2132⟩,
   ⟨⟨0x2170, 0x217F, 1⟩, 0x2160⟩, ⟨⟨0x2184, 0x2184, 1⟩, 0x2183⟩, ⟨⟨0x24D0, 0x24E9, 1⟩, 0x24B6⟩,
   ⟨⟨0x2C30, 0x2C5F, 1⟩, 0x2C00⟩, ⟨⟨0x2C61, 0x2C61, 1⟩, 0x2C60⟩, ⟨⟨0x2C65, 0x2C65, 1⟩, 0x23A⟩,
   ⟨⟨0x2C66, 0x2C66, 1⟩, 0x23E⟩, ⟨⟨0x2C68, 0x2C6C, 2⟩, 0x2C67⟩, ⟨⟨0x2C73, 0x2C73, 1⟩, 0x2C72⟩,
   ⟨⟨0x2C76, 0x2C76, 1⟩, 0x2C75⟩, ⟨⟨0x2C81, 0x2CE3, 2⟩, 0x2C80⟩, ⟨⟨0x2CEC, 0x2CEE, 2⟩, 0x2CEB⟩,
   ⟨⟨0x2CF3, 0x2CF3, 1⟩, 0x2CF2⟩, ⟨⟨0x2D00, 0x2D25, 1⟩, 0x10A0⟩, ⟨⟨0x2D27, 0x2D27, 1⟩, 0x10C7⟩,
   ⟨⟨0x2D2D, 0x2D2D, 1⟩, 0x10CD⟩, ⟨⟨0xA641, 0xA66D, 2⟩, 0xA640⟩, ⟨⟨0xA681, 0xA69B, 2⟩, 0xA680⟩,
   ⟨⟨0xA723, 0xA72F, 2⟩, 0xA722⟩, ⟨⟨0xA733, 0xA76F, 2⟩, 0xA732⟩, ⟨⟨0xA77A, 0xA77C, 2⟩, 0xA779⟩,
   ⟨⟨0xA77F, 0xA787, 2⟩, 0xA77E⟩, ⟨⟨0xA78C, 0xA78C, 1⟩, 0xA78B⟩, ⟨⟨0xA791, 0xA793, 2⟩, 0xA790⟩,
   ⟨⟨0xA794, 0xA794, 1⟩, 0xA7C4⟩, ⟨⟨0xA797, 0xA7A9, 2⟩, 0xA796⟩, ⟨⟨0xA7B5, 0xA7C3, 2⟩, 0xA7B4⟩,
   ⟨⟨0xA7C8, 0xA7CA, 2⟩, 0xA7C7⟩, ⟨⟨0xA7D1, 0xA7D1, 1⟩, 0xA7D0⟩, ⟨⟨0xA7D7, 0xA7D9, 2⟩, 0xA7D6⟩,
   ⟨⟨0xA7F6, 0xA7F6, 1⟩, 0xA7F5⟩, ⟨⟨0xAB53, 0xAB53, 1⟩, 0xA7B3⟩, ⟨⟨0xAB70, 0xABBF, 1⟩, 0x13A0⟩,
   ⟨⟨0xFF41, 0xFF5A, 1⟩, 0xFF21⟩, ⟨⟨0x10428, 0x1044F, 1⟩, 0x10400⟩,
   ⟨⟨0x104D8, 0x104FB, 1⟩, 0x104B0⟩, ⟨⟨0x10597, 0x105A1, 1⟩, 0x10570⟩,
   ⟨⟨0x105A3, 0x105B1, 1⟩, 0x1057C⟩, ⟨⟨0x105B3, 0x105B9, 1⟩, 0x1058C⟩,
   ⟨⟨0x105BB, 0x105BC, 1⟩, 0x10594⟩, ⟨⟨0x10CC0, 0x10CF2, 1⟩, 0x10C80⟩,
   ⟨⟨0x118C0, 0x118DF, 1⟩, 0x118A0⟩, ⟨⟨0x16E60, 0x16E7F, 1⟩, 0x16E40⟩,
   ⟨⟨0x1E922, 0x1E943, 1⟩, 0x1E900⟩]

/-- The code points whose upper-case form is several code points. -/
def upperSequences : List (ℕ × List ℕ) :=
  [(0xDF, [0x53, 0x53]), (0x149, [0x2BC, 0x4E]), (0x1F0, [0x4A, 0x30C]),
   (0x390, [0x399, 0x308, 0x301]), (0x3B0, [0x3A5, 0x308, 0x301]), (0x587, [0x535, 0x552]),
   (0x1E96, [0x48, 0x331]), (0x1E97, [0x54, 0x308]), (0x1E98, [0x57, 0x30A]),
   (0x1E99, [0x59, 0x30A]), (0x1E9A, [0x41, 0x2BE]), (0x1F50, [0x3A5, 0x313]),
   (0x1F52, [0x3A5, 0x313, 0x300]), (0x1F54, [0x3A5, 0x313, 0x301]),
   (0x1F56, [0x3A5, 0x313, 0x342]), (0x1F80, [0x1F08, 0x399]), (0x1F81, [0x1F09, 0x399]),
   (0x1F82, [0x1F0A, 0x399]), (0x1F83, [0x1F0B, 0x399]), (0x1F84, [0x1F0C, 0x399]),
   (0x1F85, [0x1F0D, 0x399]), (0x1F86, [0x1F0E, 0x399]), (0x1F87, [0x1F0F, 0x399]),
   (0x1F88, [0x1F08, 0x399]), (0x1F89, [0x1F09, 0x399]), (0x1F8A, [0x1F0A, 0x399]),
   (0x1F8B, [0x1F0B, 0x399]), (0x1F8C, [0x1F0C, 0x399]), (0x1F8D, [0x1F0D, 0x399]),
   (0x1F8E, [0x1F0E, 0x399]), (0x1F8F, [0x1F0F, 0x399]), (0x1F90, [0x1F28, 0x399]),
   (0x1F91, [0x1F29, 0x399]), (0x1F92, [0x1F2A, 0x399]), (0x1F93, [0x1F2B, 0x399]),
   (0x1F94, [0x1F2C, 0x399]), (0x1F95, [0x1F2D, 0x399]), (0x1F96, [0x1F2E, 0x399]),
   (0x1F97, [0x1F2F, 0x399]), (0x1F98, [0x1F28, 0x399]), (0x1F99, [0x1F29, 0x399]),
   (0x1F9A, [0x1F2A, 0x399]), (0x1F9B, [0x1F2B, 0x399]), (0x1F9C, [0x1F2C, 0x399]),
   (0x1F9D, [0x1F2D, 0x399]), (0x1F9E, [0x1F2E, 0x399]), (0x1F9F, [0x1F2F, 0x399]),
   (0x1FA0, [0x1F68, 0x399]), (0x1FA1, [0x1F69, 0x399]), (0x1FA2, [0x1F6A, 0x399]),
   (0x1FA3, [0x1F6B, 0x399]), (0x1FA4, [0x1F6C, 0x399]), (0x1FA5, [0x1F6D, 0x399]),
   (0x1FA6, [0x1F6E, 0x399]), (0x1FA7, [0x1F6F, 0x399]), (0x1FA8, [0x1F68, 0x399]),
   (0x1FA9, [0x1F69, 0x399]), (0x1FAA, [0x1F6A, 0x399]), (0x1FAB, [0x1F6B, 0x399]),
   (0x1FAC, [0x1F6C, 0x399]), (0x1FAD, [0x1F6D, 0x399]), (0x1FAE, [0x1F6E, 0x399]),
   (0x1FAF, [0x1F6F, 0x399]), (0x1FB2, [0x1FBA, 0x399]), (0x1FB3, [0x391, 0x399]),
   (0x1FB4, [0x386, 0x399]), (0x1FB6, [0x391, 0x342]), (0x1FB7, [0x391, 0x342, 0x399]),
   (0x1FBC, [0x391, 0x399]), (0x1FC2, [0x1FCA, 0x399]), (0x1FC3, [0x397, 0x399]),
   (0x1FC4, [0x389, 0x399]), (0x1FC6, [0x397, 0x342]), (0x1FC7, [0x397, 0x342, 0x399]),
   (0x1FCC, [0x397, 0x399]), (0x1FD2, [0x399, 0x308, 0x300]), (0x1FD3, [0x399, 0x308, 0x301]),
   (0x1FD6, [0x399, 0x342]), (0x1FD7, [0x399, 0x308, 0x342]), (0x1FE2, [0x3A5, 0x308, 0x300]),
   (0x1FE3, [0x3A5, 0x308, 0x301]), (0x1FE4, [0x3A1, 0x313]), (0x1FE6, [0x3A5, 0x342]),
   (0x1FE7, [0x3A5, 0x308, 0x342]), (0x1FF2, [0x1FFA, 0x399]), (0x1FF3, [0x3A9, 0x399]),
   (0x1FF4, [0x38F, 0x399]), (0x1FF6, [0x3A9, 0x342]), (0x1FF7, [0x3A9, 0x342, 0x399]),
   (0x1FFC, [0x3A9, 0x399]), (0xFB00, [0x46, 0x46]), (0xFB01, [0x46, 0x49]), (0xFB02, [0x46, 0x4C]),
   (0xFB03, [0x46, 0x46, 0x49]), (0xFB04, [0x46, 0x46, 0x4C]), (0xFB05, [0x53, 0x54]),
   (0xFB06, [0x53, 0x54]), (0xFB13, [0x544, 0x546]), (0xFB14, [0x544, 0x535]),
   (0xFB15, [0x544, 0x53B]), (0xFB16, [0x54E, 0x546]), (0xFB17, [0x544, 0x53D])]

/-- The code points of `str.isdigit`, as intervals. -/
def digitRanges : List (ℕ × ℕ) :=
  [(0x30, 0x39), (0xB2, 0xB3), (0xB9, 0xB9), (0x660, 0x669), (0x6F0, 0x6F9), (0x7C0, 0x7C9),
   (0x966, 0x96F), (0x9E6, 0x9EF), (0xA66, 0xA6F), (0xAE6, 0xAEF), (0xB66, 0xB6F), (0xBE6, 0xBEF),
   (0xC66, 0xC6F), (0xCE6, 0xCEF), (0xD66, 0xD6F), (0xDE6, 0xDEF), (0xE50, 0xE59), (0xED0, 0xED9),
   (0xF20, 0xF29), (0x1040, 0x1049), (0x1090, 0x1099), (0x1369, 0x1371), (0x17E0, 0x17E9),
   (0x1810, 0x1819), (0x1946, 0x194F), (0x19D0, 0x19DA), (0x1A80, 0x1A89), (0x1A90, 0x1A99),
   (0x1B50, 0x1B59), (0x1BB0, 0x1BB9), (0x1C40, 0x1C49), (0x1C50, 0x1C59), (0x2070, 0x2070),
   (0x2074, 0x2079), (0x2080, 0x2089), (0x2460, 0x2468), (0x2474, 0x247C), (0x2488, 0x2490),
   (0x24EA, 0x24EA), (0x24F5, 0x24FD), (0x24FF, 0x24FF), (0x2776, 0x277E), (0x2780, 0x2788),
   (0x278A, 0x2792), (0xA620, 0xA629), (0xA8D0, 0xA8D9), (0xA900, 0xA909), (0xA9D0, 0xA9D9),
   (0xA9F0, 0xA9F9), (0xAA50, 0xAA59), (0xABF0, 0xABF9), (0xFF10, 0xFF19), (0x104A0, 0x104A9),
   (0x10A40, 0x10A43), (0x10D30, 0x10D39), (0x10E60, 0x10E68), (0x11052, 0x1105A),
   (0x11066, 0x1106F), (0x110F0, 0x110F9), (0x11136, 0x1113F), (0x111D0, 0x111D9),
   (0x112F0, 0x112F9), (0x11450, 0x11459), (0x114D0, 0x114D9), (0x11650, 0x11659),
   (0x116C0, 0x116C9), (0x11730, 0x11739), (0x118E0, 0x118E9), (0x11950, 0x11959),
   (0x11C50, 0x11C59), (0x11D50, 0x11D59), (0x11DA0, 0x11DA9), (0x16A60, 0x16A69),
   (0x16AC0, 0x16AC9), (0x16B50, 0x16B59), (0x1D7CE, 0x1D7FF), (0x1E140, 0x1E149),
   (0x1E2F0, 0x1E2F9), (0x1E950, 0x1E959), (0x1F100, 0x1F10A), (0x1FBF0, 0x1FBF9)]

/-- The code points of `str.isspace`, as intervals. -/
def spaceRanges : List (ℕ × ℕ) :=
  [(0x9, 0xD), (0x1C, 0x20), (0x85, 0x85), (0xA0, 0xA0), (0x1680, 0x1680), (0x2000, 0x200A),
   (0x2028, 0x2029), (0x202F, 0x202F), (0x205F, 0x205F), (0x3000, 0x3000)]

/-- The upper-case form of a code point. -/
def upperCode (code : ℕ) : List ℕ :=
  match upperSequences.find? fun entry => entry.1 == code with
  | some entry => entry.2
  | none =>
    match upperRanges.find? fun range => range.contains code with
    | some range => [range.image + (code - range.first)]
    | none => [code]

/-- `str.upper`. -/
def upper (s : String) : String :=
  String.ofList (s.toList.flatMap fun c => (upperCode c.toNat).map Char.ofNat)

/-- `str.isdigit`: one or more digits. -/
def isDigit (s : String) : Bool :=
  s ≠ "" && s.toList.all fun c => digitRanges.any fun range =>
    range.1.ble c.toNat && c.toNat.ble range.2

/-- `str.isspace`, on one character. -/
def isSpace (c : Char) : Bool :=
  spaceRanges.any fun range => range.1.ble c.toNat && c.toNat.ble range.2

/-- `str.strip` leaves something. -/
def isNotBlank (s : String) : Bool := s.toList.any fun c => !isSpace c

/-! ## Upper-casing twice -/

/-- One code point as a range. -/
def CodeRange.single (code : ℕ) : CodeRange := ⟨code, code, 1⟩

/-- All code points of the range are even, or all are odd. -/
def CodeRange.hasParity (range : CodeRange) : Bool :=
  range.step % 2 == 0 || range.first == range.last

/-- The ranges lie apart, or one is of even and the other of odd code points. -/
def CodeRange.apart (a b : CodeRange) : Bool :=
  a.last.blt b.first || (b.last.blt a.first ||
    (a.hasParity && (b.hasParity && (a.first + b.first) % 2 == 1)))

/-- The code points that upper-casing changes. -/
def upperSources : List CodeRange :=
  upperRanges.map UpperRange.toCodeRange ++ upperSequences.map fun entry => .single entry.1

/-- The code points that upper-casing changes others into. -/
def upperImages : List CodeRange :=
  (upperRanges.map fun range => ⟨range.image, range.image + (range.last - range.first), range.step⟩)
    ++ (upperSequences.flatMap Prod.snd).map CodeRange.single

/-- The ranges of images and of changed code points lie apart, and images are characters. -/
theorem upperImages_apart :
    (upperImages.all fun image =>
      (image.last.blt 0xD800 || (Nat.blt 0xDFFF image.first && image.last.blt 0x110000)) &&
        upperSources.all fun source => image.apart source) = true := by
  decide +kernel

/-- The code points of a range. -/
theorem CodeRange.contains_iff {range : CodeRange} {code : ℕ} :
    range.contains code = true ↔
      range.first ≤ code ∧ code ≤ range.last ∧ (code - range.first) % range.step = 0 := by
  simp [contains, Nat.ble_eq]

/-- The code points of a range with a parity have the parity of the first. -/
theorem CodeRange.mod_two {range : CodeRange} {code : ℕ} (hparity : range.hasParity = true)
    (hcode : range.contains code = true) : code % 2 = range.first % 2 := by
  obtain ⟨hfirst, hlast, hstep⟩ := contains_iff.mp hcode
  simp only [hasParity, Bool.or_eq_true, beq_iff_eq] at hparity
  rcases hparity with heven | hsingle
  · have h2 : 2 ∣ code - range.first :=
      (Nat.dvd_of_mod_eq_zero heven).trans (Nat.dvd_of_mod_eq_zero hstep)
    omega
  · omega

/-- A code point is not in two ranges that are apart. -/
theorem CodeRange.not_contains_of_apart {a b : CodeRange} {code : ℕ} (hapart : a.apart b = true)
    (ha : a.contains code = true) : b.contains code = false := by
  by_contra hb
  rw [Bool.not_eq_false] at hb
  obtain ⟨hafirst, halast, -⟩ := contains_iff.mp ha
  obtain ⟨hbfirst, hblast, -⟩ := contains_iff.mp hb
  simp only [apart, Bool.or_eq_true, Bool.and_eq_true, Nat.blt_eq, beq_iff_eq] at hapart
  rcases hapart with h | h | ⟨hpa, hpb, hodd⟩
  · omega
  · omega
  · have h₁ := mod_two hpa ha
    have h₂ := mod_two hpb hb
    omega

/-- A code point that no range of changed code points contains is its own upper-case form. -/
theorem upperCode_eq_self {code : ℕ} (h : ∀ source ∈ upperSources, source.contains code = false) :
    upperCode code = [code] := by
  have hsequence : upperSequences.find? (fun entry => entry.1 == code) = none := by
    refine List.find?_eq_none.mpr fun entry hentry heq => ?_
    have hmem : CodeRange.single entry.1 ∈ upperSources :=
      List.mem_append_right _ (List.mem_map_of_mem hentry)
    have hself : (CodeRange.single entry.1).contains code = true := by
      rw [CodeRange.contains_iff, ← eq_of_beq heq]
      exact ⟨le_rfl, le_rfl, by simp [CodeRange.single]⟩
    exact Bool.false_ne_true ((h _ hmem).symm.trans hself)
  have hrange : upperRanges.find? (fun range => range.contains code) = none := by
    refine List.find?_eq_none.mpr fun range hmem hcontains => ?_
    rw [h _ (List.mem_append_left _ (List.mem_map_of_mem hmem))] at hcontains
    exact Bool.false_ne_true hcontains
  rw [upperCode, hsequence, hrange]

/-- What upper-casing returns for a code point is the code point itself, unchanged, or images. -/
theorem mem_upperCode {code d : ℕ} (hd : d ∈ upperCode code) :
    (d = code ∧ upperCode code = [code]) ∨ ∃ image ∈ upperImages, image.contains d = true := by
  unfold upperCode at hd ⊢
  split at hd
  · next entry hentry =>
    have hmem := List.mem_of_find?_eq_some hentry
    refine Or.inr ⟨.single d, List.mem_append_right _ (List.mem_map_of_mem ?_), ?_⟩
    · exact List.mem_flatMap.mpr ⟨entry, hmem, hd⟩
    · simp [CodeRange.contains, CodeRange.single]
  · split at hd
    · next range hrange =>
      have hmem := List.mem_of_find?_eq_some hrange
      have hcontains : range.contains code = true := by simpa using List.find?_some hrange
      obtain ⟨hfirst, hlast, hstep⟩ := CodeRange.contains_iff.mp hcontains
      rw [List.mem_singleton] at hd
      refine Or.inr ⟨_, List.mem_append_left _ (List.mem_map_of_mem hmem),
        CodeRange.contains_iff.mpr ⟨?_, ?_, ?_⟩⟩
      · simp only [hd]
        omega
      · simp only [hd]
        omega
      · simp only [hd, Nat.add_sub_cancel_left]
        exact hstep
    · next hnone =>
      rw [List.mem_singleton] at hd
      rw [hd]
      simp_all

/-- Upper-casing changes nothing that it returned. -/
theorem upperCode_of_mem {code d : ℕ} (hd : d ∈ upperCode code) : upperCode d = [d] := by
  rcases mem_upperCode hd with ⟨rfl, h⟩ | ⟨image, himage, hcontains⟩
  · exact h
  · have hall := List.all_eq_true.mp upperImages_apart image himage
    rw [Bool.and_eq_true, List.all_eq_true] at hall
    exact upperCode_eq_self fun source hsource =>
      CodeRange.not_contains_of_apart (hall.2 source hsource) hcontains

/-- Upper-casing a character returns characters. -/
theorem isValidChar_of_mem_upperCode {c : Char} {d : ℕ} (hd : d ∈ upperCode c.toNat) :
    d.isValidChar := by
  rcases mem_upperCode hd with ⟨rfl, -⟩ | ⟨image, himage, hcontains⟩
  · exact c.valid
  · have hall := List.all_eq_true.mp upperImages_apart image himage
    obtain ⟨hfirst, hlast, -⟩ := CodeRange.contains_iff.mp hcontains
    simp only [Bool.and_eq_true, Bool.or_eq_true, Nat.blt_eq] at hall
    rcases hall.1 with h | ⟨h, h'⟩
    · exact Or.inl (by omega)
    · exact Or.inr ⟨by omega, by omega⟩

/-- The characters of an upper-cased string are those of the upper-case forms. -/
theorem mem_upper_iff {s : String} {c : Char} :
    c ∈ (upper s).toList ↔ ∃ given ∈ s.toList, c.toNat ∈ upperCode given.toNat := by
  unfold upper
  rw [String.toList_ofList, List.mem_flatMap]
  refine exists_congr fun given => and_congr_right fun _ => ?_
  rw [List.mem_map]
  constructor
  · rintro ⟨code, hcode, rfl⟩
    have hback : (Char.ofNat code).toNat = code := by
      rw [Char.ofNat, dif_pos (isValidChar_of_mem_upperCode hcode)]
      rfl
    rwa [hback]
  · exact fun hcode => ⟨c.toNat, hcode, Char.ofNat_toNat c⟩

/-- The characters of an upper-cased string are their own upper-case forms. -/
theorem upperCode_of_mem_upper {s : String} {c : Char} (h : c ∈ (upper s).toList) :
    upperCode c.toNat = [c.toNat] := by
  obtain ⟨given, -, hcode⟩ := mem_upper_iff.mp h
  exact upperCode_of_mem hcode

/-- Upper-casing neither adds nor drops a NUL. -/
theorem nul_mem_upper_iff {s : String} :
    Char.ofNat 0 ∈ (upper s).toList ↔ Char.ofNat 0 ∈ s.toList := by
  have hnone : ∀ image ∈ upperImages, image.contains 0 = false := by decide +kernel
  rw [mem_upper_iff]
  constructor
  · rintro ⟨given, hgiven, hcode⟩
    rcases mem_upperCode hcode with ⟨heq, -⟩ | ⟨image, himage, hcontains⟩
    · rwa [← Char.ofNat_toNat given, ← heq] at hgiven
    · exact absurd (hcontains.symm.trans (hnone image himage)) (by decide)
  · exact fun hnul => ⟨_, hnul, by decide +kernel⟩

/-- A string of characters that are their own upper-case forms stays as it is. -/
theorem upper_eq_self {s : String} (h : ∀ c ∈ s.toList, upperCode c.toNat = [c.toNat]) :
    upper s = s := by
  have hkept : ∀ c ∈ s.toList, (upperCode c.toNat).map Char.ofNat = [c] := by
    intro c hc
    rw [h c hc, List.map_singleton, Char.ofNat_toNat]
  unfold upper
  rw [List.flatMap_congr hkept, List.flatMap_singleton', String.ofList_toList]

/-- `str.upper` changes nothing when it is applied again. -/
@[simp]
theorem upper_upper (s : String) : upper (upper s) = upper s :=
  upper_eq_self fun _ hc => upperCode_of_mem_upper hc

/-! ## How long upper-case text is -/

/-- An upper-case form is one code point, except in the table of sequences, where it is several. -/
theorem length_upperCode (code : ℕ) : 1 ≤ (upperCode code).length ∧
    ((upperCode code).length = 1 ↔ code ∉ upperSequences.map Prod.fst) := by
  have hseveral : ∀ entry ∈ upperSequences, 2 ≤ entry.2.length := by decide
  unfold upperCode
  split
  · next entry hfind =>
    have hmem := List.mem_of_find?_eq_some hfind
    have hcode : entry.1 = code := by simpa using List.find?_some hfind
    have htwo := hseveral entry hmem
    refine ⟨by omega, iff_of_false (by omega) fun hnot => hnot ?_⟩
    exact List.mem_map.mpr ⟨entry, hmem, hcode⟩
  · next hfind =>
    have hnot : code ∉ upperSequences.map Prod.fst := by
      intro hmem
      obtain ⟨entry, hentry, hcode⟩ := List.mem_map.mp hmem
      have hne := List.find?_eq_none.mp hfind entry hentry
      exact hne (beq_iff_eq.mpr hcode)
    split
    · exact ⟨le_rfl, iff_of_true rfl hnot⟩
    · exact ⟨le_rfl, iff_of_true rfl hnot⟩

/-- Upper-casing keeps the length of a text exactly when none of its characters is in the table of
sequences, and otherwise adds to it. -/
theorem length_upper (s : String) : s.length ≤ (upper s).length ∧
    ((upper s).length = s.length ↔ ∀ c ∈ s.toList, c.toNat ∉ upperSequences.map Prod.fst) := by
  have hchars : ∀ chars : List Char,
      chars.length ≤ (chars.flatMap fun c => (upperCode c.toNat).map Char.ofNat).length ∧
      ((chars.flatMap fun c => (upperCode c.toNat).map Char.ofNat).length = chars.length ↔
        ∀ c ∈ chars, c.toNat ∉ upperSequences.map Prod.fst) := by
    intro chars
    induction chars with
    | nil => exact ⟨le_rfl, iff_of_true rfl fun _ hnil => absurd hnil List.not_mem_nil⟩
    | cons c chars ih =>
      obtain ⟨hle, hiff⟩ := ih
      obtain ⟨hone, hsingle⟩ := length_upperCode c.toNat
      rw [List.flatMap_cons, List.length_append, List.length_map, List.length_cons,
        List.forall_mem_cons, ← hiff, ← hsingle]
      omega
  unfold upper
  rw [String.length_ofList, ← String.length_toList]
  exact hchars s.toList

end AtlasPay
