import SourceChunks.Text.CharacterSet.Basic
import SourceChunks.Text.Utf32

/-! Encodings of East Asia, in which a character has one byte or two, and in some of them more. A byte
that begins no character becomes a replacement character, and so does what breaks off at the end. -/

namespace SourceChunks

/-! ### Steps -/

inductive ByteStep where
  | char (c : Char) (length : Nat)
  /-- A byte that begins no character. -/
  | bad
  /-- A character that breaks off. -/
  | short

/-- How characters are read: from one byte, from several that begin like a longer one, or else from
two. -/
structure ByteReader where
  single : Nat → Option Char
  longer : List Nat → Option ByteStep
  double : Nat → Nat → Option Char

namespace ByteReader

def next (r : ByteReader) (a : Nat) (rest : List Nat) : ByteStep :=
  match r.single a, r.longer (a :: rest), rest with
  | some c, _, _ => .char c 1
  | none, some s, _ => s
  | none, none, [] => .short
  | none, none, b :: _ => (r.double a b).elim .bad fun c => .char c 2

def decode (r : ByteReader) : List Nat → Text
  | [] => []
  | a :: rest =>
    match r.next a rest with
    | .char c n => c :: r.decode (rest.drop (n - 1))
    | .bad => replacementChar :: r.decode rest
    | .short => [replacementChar]
termination_by bs => bs.length
decreasing_by all_goals simp only [List.length_drop, List.length_cons]; omega

end ByteReader

/-! ### The encodings -/

inductive Multibyte where
  | gb2312 | gbk | gb18030 | eucKr | cp949 | big5 | cp950 | shiftJis | cp932 | eucJp
  deriving DecidableEq, Repr

namespace Multibyte

def ascii (a : Nat) : Option Char := if a < 0x80 then some (Char.ofNat a) else none

/-- The first of several lists of code numbers that has an entry for two bytes. Each list is a first
pair of bytes, a first code number and a length. -/
def run? (runs : List (Nat × Nat × Nat)) (a b : Nat) : Option Char :=
  let n := 256 * a + b
  (runs.find? fun r => r.1 ≤ n && n < r.1 + r.2.2).map fun r => Char.ofNat (r.2.1 + (n - r.1))

/-- The characters of pairs of bytes that stand in a row. -/
def strip? (strips : List (Nat × String)) (a b : Nat) : Option Char :=
  let n := 256 * a + b
  (strips.findSome? fun s => if s.1 ≤ n then s.2.toList[n - s.1]? else none).filter (· != ' ')

/-- The place of a second byte from 40 on, where 7f is left out. -/
def column (b : Nat) : Nat := if b < 0x80 then b - 0x40 else b - 0x41

/-! ### China -/

def gb2312Double (a b : Nat) : Option Char := CharacterSet.gb2312.pair? 0xa1 a b

def gbkIdeographs : Array Nat := CharacterSet.missing CharacterSet.gb2312.cells 0x4e00 0x9fa5

/-- Signs that GBK has more than GB 2312, and two that it has in place of others. -/
def gbkSigns : List (Nat × String) := [
  (0xa1a4, "·"), (0xa1aa, "—"), (0xa2a1, "ⅰⅱⅲⅳⅴⅵⅶⅷⅸⅹ"),
  (0xa6e0, "︵︶︹︺︿﹀︽︾﹁﹂﹃﹄"), (0xa6ee, "︻︼︷︸︱ ︳︴"), (0xa8bb, "ɑ ńň ɡ"),
  (0xa840, "ˊˋ˙–―‥‵℅℉↖↗↘↙∕∟∣≒≦≧⊿═║╒╓╔╕╖╗╘╙╚╛╜╝╞╟╠╡╢╣╤╥╦╧╨╩╪╫╬╭╮╯╰╱╲╳▁▂▃▄▅▆▇"),
  (0xa880, "█▉▊▋▌▍▎▏▓▔▕▼▽◢◣◤◥☉⊕〒〝〞"),
  (0xa940, "〡〢〣〤〥〦〧〨〩㊣㎎㎏㎜㎝㎞㎡㏄㏎㏑㏒㏕︰￢￤ ℡㈱ ‐   ー゛゜ヽヾ〆ゝゞ﹉﹊﹋﹌﹍﹎﹏﹐﹑﹒﹔﹕﹖﹗﹙﹚﹛﹜﹝﹞﹟﹠﹡"),
  (0xa980, "﹢﹣﹤﹥﹦﹨﹩﹪﹫"), (0xa996, "〇"),
  (0xfd9c, "\uf92c\uf979\uf995\uf9e7\uf9f1"),
  (0xfe40, "\ufa0c\ufa0d\ufa0e\ufa0f\ufa11\ufa13\ufa14\ufa18\ufa1f\ufa20\ufa21\ufa23\ufa24\ufa27\ufa28\ufa29")]

/-- The place of two bytes among the ideographs that GB 2312 lacks, which fill the rows before its own
and then the front of the later ones. -/
def gbkIndex? (a b : Nat) : Option Nat :=
  if b < 0x40 || b = 0x7f || 0xfe < b then none
  else if 0x81 ≤ a && a ≤ 0xa0 then some (190 * (a - 0x81) + column b)
  else if 0xaa ≤ a && a ≤ 0xfe && b ≤ 0xa0 then some (6080 + 96 * (a - 0xaa) + column b)
  else none

def gbkDouble (a b : Nat) : Option Char :=
  ((strip? gbkSigns a b).or (gb2312Double a b)).or
    (((gbkIndex? a b).bind fun i => gbkIdeographs[i]?).map Char.ofNat)

/-- Pairs of bytes that GBK lacks, some of them for private use. -/
def gb18030Runs : List (Nat × Nat × Nat) := [
  (0xa2ab, 0xe766, 6), (0xa2e3, 0x20ac, 1), (0xa2e4, 0xe76d, 1), (0xa2ef, 0xe76e, 2), (0xa2fd, 0xe770, 2),
  (0xa4f4, 0xe772, 11), (0xa5f7, 0xe77d, 8), (0xa6b9, 0xe785, 8), (0xa6d9, 0xe78d, 7), (0xa6ec, 0xe794, 2),
  (0xa6f3, 0xe796, 1), (0xa6f6, 0xe797, 9), (0xa7c2, 0xe7a0, 15), (0xa7f2, 0xe7af, 13), (0xa896, 0xe7bc, 11),
  (0xa8bc, 0xe7c7, 1), (0xa8bf, 0x1f9, 1), (0xa8c1, 0xe7c9, 4), (0xa8ea, 0xe7cd, 21), (0xa958, 0xe7e2, 1),
  (0xa95b, 0xe7e3, 1), (0xa95d, 0xe7e4, 3), (0xa989, 0x303e, 1), (0xa98a, 0x2ff0, 12), (0xa997, 0xe7f4, 13),
  (0xa9f0, 0xe801, 15), (0xd7fa, 0xe810, 5), (0xfe50, 0x2e81, 1), (0xfe51, 0xe816, 3), (0xfe54, 0x2e84, 1),
  (0xfe55, 0x3473, 1), (0xfe56, 0x3447, 1), (0xfe57, 0x2e88, 1), (0xfe58, 0x2e8b, 1), (0xfe59, 0xe81e, 1),
  (0xfe5a, 0x359e, 1), (0xfe5b, 0x361a, 1), (0xfe5c, 0x360e, 1), (0xfe5d, 0x2e8c, 1), (0xfe5e, 0x2e97, 1),
  (0xfe5f, 0x396e, 1), (0xfe60, 0x3918, 1), (0xfe61, 0xe826, 1), (0xfe62, 0x39cf, 1), (0xfe63, 0x39df, 1),
  (0xfe64, 0x3a73, 1), (0xfe65, 0x39d0, 1), (0xfe66, 0xe82b, 2), (0xfe68, 0x3b4e, 1), (0xfe69, 0x3c6e, 1),
  (0xfe6a, 0x3ce0, 1), (0xfe6b, 0x2ea7, 1), (0xfe6c, 0xe831, 2), (0xfe6e, 0x2eaa, 1), (0xfe6f, 0x4056, 1),
  (0xfe70, 0x415f, 1), (0xfe71, 0x2eae, 1), (0xfe72, 0x4337, 1), (0xfe73, 0x2eb3, 1), (0xfe74, 0x2eb6, 2),
  (0xfe76, 0xe83b, 1), (0xfe77, 0x43b1, 1), (0xfe78, 0x43ac, 1), (0xfe79, 0x2ebb, 1), (0xfe7a, 0x43dd, 1),
  (0xfe7b, 0x44d6, 1), (0xfe7c, 0x4661, 1), (0xfe7d, 0x464c, 1), (0xfe7e, 0xe843, 1), (0xfe80, 0x4723, 1),
  (0xfe81, 0x4729, 1), (0xfe82, 0x477c, 1), (0xfe83, 0x478d, 1), (0xfe84, 0x2eca, 1), (0xfe85, 0x4947, 1),
  (0xfe86, 0x497a, 1), (0xfe87, 0x497d, 1), (0xfe88, 0x4982, 2), (0xfe8a, 0x4985, 2), (0xfe8c, 0x499f, 1),
  (0xfe8d, 0x499b, 1), (0xfe8e, 0x49b7, 1), (0xfe8f, 0x49b6, 1), (0xfe90, 0xe854, 2), (0xfe92, 0x4ca3, 1),
  (0xfe93, 0x4c9f, 3), (0xfe96, 0x4c77, 1), (0xfe97, 0x4ca2, 1), (0xfe98, 0x4d13, 7), (0xfe9f, 0x4dae, 1),
  (0xfea0, 0xe864, 1)]

/-- The three areas for the use of anyone. -/
def gb18030Private? (a b : Nat) : Option Char :=
  let inRow := 0xa1 ≤ b && b ≤ 0xfe
  let before := 0x40 ≤ b && b != 0x7f && b ≤ 0xa0
  if 0xaa ≤ a && a ≤ 0xaf && inRow then some (Char.ofNat (0xe000 + 94 * (a - 0xaa) + (b - 0xa1)))
  else if 0xf8 ≤ a && a ≤ 0xfe && inRow then some (Char.ofNat (0xe234 + 94 * (a - 0xf8) + (b - 0xa1)))
  else if 0xa1 ≤ a && a ≤ 0xa7 && before then some (Char.ofNat (0xe4c6 + 96 * (a - 0xa1) + column b))
  else none

def gb18030Double (a b : Nat) : Option Char :=
  ((gbkDouble a b).or (run? gb18030Runs a b)).or (gb18030Private? a b)

/-- The code numbers of the first plane that have no pair of bytes, in order: the place of the first of
several in a row, and its code number. -/
def gb18030Rest : List (Nat × Nat) := [
  (0, 0x80), (36, 0xa5), (38, 0xa9), (45, 0xb2), (50, 0xb8), (81, 0xd8), (89, 0xe2),
  (95, 0xeb), (96, 0xee), (100, 0xf4), (103, 0xf8), (104, 0xfb), (105, 0xfd), (109, 0x102),
  (126, 0x114), (133, 0x11c), (148, 0x12c), (172, 0x145), (175, 0x149), (179, 0x14e), (208, 0x16c),
  (306, 0x1cf), (307, 0x1d1), (308, 0x1d3), (309, 0x1d5), (310, 0x1d7), (311, 0x1d9), (312, 0x1db),
  (313, 0x1dd), (341, 0x1fa), (428, 0x252), (443, 0x262), (544, 0x2c8), (545, 0x2cc), (558, 0x2da),
  (741, 0x3a2), (742, 0x3aa), (749, 0x3c2), (750, 0x3ca), (805, 0x402), (819, 0x450), (820, 0x452),
  (7922, 0x2011), (7924, 0x2017), (7925, 0x201a), (7927, 0x201e), (7934, 0x2027), (7943, 0x2031), (7944, 0x2034),
  (7945, 0x2036), (7950, 0x203c), (8062, 0x20ad), (8148, 0x2104), (8149, 0x2106), (8152, 0x210a), (8164, 0x2117),
  (8174, 0x2122), (8236, 0x216c), (8240, 0x217a), (8262, 0x2194), (8264, 0x219a), (8374, 0x2209), (8380, 0x2210),
  (8381, 0x2212), (8384, 0x2216), (8388, 0x221b), (8390, 0x2221), (8392, 0x2224), (8393, 0x2226), (8394, 0x222c),
  (8396, 0x222f), (8401, 0x2238), (8406, 0x223e), (8416, 0x2249), (8419, 0x224d), (8424, 0x2253), (8437, 0x2262),
  (8439, 0x2268), (8445, 0x2270), (8482, 0x2296), (8485, 0x229a), (8496, 0x22a6), (8521, 0x22c0), (8603, 0x2313),
  (8936, 0x246a), (8946, 0x249c), (9046, 0x254c), (9050, 0x2574), (9063, 0x2590), (9066, 0x2596), (9076, 0x25a2),
  (9092, 0x25b4), (9100, 0x25be), (9108, 0x25c8), (9111, 0x25cc), (9113, 0x25d0), (9131, 0x25e6), (9162, 0x2607),
  (9164, 0x260a), (9218, 0x2641), (9219, 0x2643), (11329, 0x2e82), (11331, 0x2e85), (11334, 0x2e89), (11336, 0x2e8d),
  (11346, 0x2e98), (11361, 0x2ea8), (11363, 0x2eab), (11366, 0x2eaf), (11370, 0x2eb4), (11372, 0x2eb8), (11375, 0x2ebc),
  (11389, 0x2ecb), (11682, 0x2ffc), (11686, 0x3004), (11687, 0x3018), (11692, 0x301f), (11694, 0x302a), (11714, 0x303f),
  (11716, 0x3094), (11723, 0x309f), (11725, 0x30f7), (11730, 0x30ff), (11736, 0x312a), (11982, 0x322a), (11989, 0x3232),
  (12102, 0x32a4), (12336, 0x3390), (12348, 0x339f), (12350, 0x33a2), (12384, 0x33c5), (12393, 0x33cf), (12395, 0x33d3),
  (12397, 0x33d6), (12510, 0x3448), (12553, 0x3474), (12851, 0x359f), (12962, 0x360f), (12973, 0x361b), (13738, 0x3919),
  (13823, 0x396f), (13919, 0x39d1), (13933, 0x39e0), (14080, 0x3a74), (14298, 0x3b4f), (14585, 0x3c6f), (14698, 0x3ce1),
  (15583, 0x4057), (15847, 0x4160), (16318, 0x4338), (16434, 0x43ad), (16438, 0x43b2), (16481, 0x43de), (16729, 0x44d7),
  (17102, 0x464d), (17122, 0x4662), (17315, 0x4724), (17320, 0x472a), (17402, 0x477d), (17418, 0x478e), (17859, 0x4948),
  (17909, 0x497b), (17911, 0x497e), (17915, 0x4984), (17916, 0x4987), (17936, 0x499c), (17939, 0x49a0), (17961, 0x49b8),
  (18664, 0x4c78), (18703, 0x4ca4), (18814, 0x4d1a), (18962, 0x4daf), (19043, 0x9fa6), (33469, 0xe76c), (33470, 0xe7c8),
  (33471, 0xe7e7), (33484, 0xe815), (33485, 0xe819), (33490, 0xe81f), (33497, 0xe827), (33501, 0xe82d), (33505, 0xe833),
  (33513, 0xe83c), (33520, 0xe844), (33536, 0xe856), (33550, 0xe865), (37845, 0xf92d), (37921, 0xf97a), (37948, 0xf996),
  (38029, 0xf9e8), (38038, 0xf9f2), (38064, 0xfa10), (38065, 0xfa12), (38066, 0xfa15), (38069, 0xfa19), (38075, 0xfa22),
  (38076, 0xfa25), (38078, 0xfa2a), (39108, 0xfe32), (39109, 0xfe45), (39113, 0xfe53), (39114, 0xfe58), (39115, 0xfe67),
  (39116, 0xfe6c), (39265, 0xff5f), (39394, 0xffe6)]

def gb18030Code? (n : Nat) : Option Nat :=
  if n < 39420 then (gb18030Rest.reverse.find? (·.1 ≤ n)).map fun r => r.2 + (n - r.1)
  else if 189000 ≤ n then some (0x10000 + (n - 189000))
  else none

/-- Four bytes, of which the second and the last are digits. -/
def gb18030Longer : List Nat → Option ByteStep
  | a :: b :: rest =>
    if 0x30 ≤ b && b ≤ 0x39 then
      match rest with
      | c :: d :: _ =>
        if 0x81 ≤ a && a ≤ 0xfe && 0x81 ≤ c && c ≤ 0xfe && 0x30 ≤ d && d ≤ 0x39 then
          let n := ((10 * (a - 0x81) + (b - 0x30)) * 126 + (c - 0x81)) * 10 + (d - 0x30)
          some (((gb18030Code? n).filter (· ≤ 0x10ffff)).elim .bad fun n => .char (Char.ofNat n) 4)
        else some .bad
      | _ => some .short
    else none
  | _ => none

/-! ### Korea -/

def eucKrDouble (a b : Nat) : Option Char := CharacterSet.ksX1001.pair? 0xa1 a b

/-- Signs of consonants in the order of the standard: the place of each among those that begin a
syllable, and among those that end one; 99 where there is none. -/
def initials : List Nat :=
  [0, 1, 99, 2, 99, 99, 3, 4, 5, 99, 99, 99, 99, 99, 99, 99, 6, 7, 8, 99, 9, 10, 11, 12, 13, 14, 15, 16, 17, 18]

@[inherit_doc initials]
def finals : List Nat :=
  [1, 2, 3, 4, 5, 6, 7, 99, 8, 9, 10, 11, 12, 13, 14, 15, 16, 17, 99, 18, 19, 20, 21, 22, 99, 23, 24, 25, 26, 27]

/-- A syllable spelled by its signs, with a filler in front and one in place of a missing end. -/
def spelled? (a b c : Nat) : Option Char :=
  let first := if 0xa1 ≤ a then initials.getD (a - 0xa1) 99 else 99
  let second := if 0xbf ≤ b && b ≤ 0xd3 then b - 0xbf else 99
  let third := if c = 0xd4 then 0 else if 0xa1 ≤ c then finals.getD (c - 0xa1) 99 else 99
  if first = 99 || second = 99 || third = 99 then none
  else some (Char.ofNat (0xac00 + 588 * first + 28 * second + third))

def eucKrLonger : List Nat → Option ByteStep
  | 0xa4 :: 0xd4 :: rest =>
    match rest with
    | p :: a :: q :: b :: r :: c :: _ =>
      if p = 0xa4 && q = 0xa4 && r = 0xa4 then some ((spelled? a b c).elim .bad fun s => .char s 8)
      else some .bad
    | _ => some .short
  | _ => none

def otherSyllables : Array Nat := CharacterSet.missing CharacterSet.ksX1001.cells 0xac00 0xd7a3

def letterColumn? (b : Nat) : Option Nat :=
  if 0x41 ≤ b && b ≤ 0x5a then some (b - 0x41)
  else if 0x61 ≤ b && b ≤ 0x7a then some (b - 0x47)
  else if 0x81 ≤ b && b ≤ 0xfe then some (b - 0x4d)
  else none

def otherIndex? (a b : Nat) : Option Nat :=
  (letterColumn? b).bind fun i =>
    if 0x81 ≤ a && a ≤ 0xa0 then some (178 * (a - 0x81) + i)
    else if 0xa1 ≤ a && a ≤ 0xc6 && b ≤ 0xa0 then some (5696 + 84 * (a - 0xa1) + i)
    else none

def cp949Double (a b : Nat) : Option Char :=
  ((eucKrDouble a b).or (strip? [(0xa4d4, "ㅤ")] a b)).or
    (((otherIndex? a b).bind fun i => otherSyllables[i]?).map Char.ofNat)

/-! ### Taiwan -/

def big5Double (a b : Nat) : Option Char :=
  if a < 0xa1 then none
  else if 0x40 ≤ b && b ≤ 0x7e then CharacterSet.big5.char? (a - 0xa1) (b - 0x40)
  else if 0xa1 ≤ b then CharacterSet.big5.char? (a - 0xa1) (b - 0x62)
  else none

/-- Signs that a vendor has in place of others, and more of them at the end. -/
def cp950Signs : List (Nat × String) := [
  (0xa145, "‧"), (0xa14e, "﹑"), (0xa1c2, "¯"), (0xa1e3, "～"), (0xa1f2, "⊕⊙"), (0xa241, "∕﹨"), (0xa244, "￥"),
  (0xa246, "￠￡"), (0xa3e1, "€"), (0xf9d6, "碁銹裏墻恒粧嫺╔╦╗╠╬╣╚╩╝╒╤╕╞╪╡╘╧╛╓╥╖╟╫╢╙╨╜║═╭╮╰╯▓")]

def cp950Double (a b : Nat) : Option Char := (strip? cp950Signs a b).or (big5Double a b)

/-! ### Japan -/

def halfWide? (a : Nat) : Option Char := if 0xa1 ≤ a && a ≤ 0xdf then some (Char.ofNat (0xfec0 + a)) else none

/-- Two bytes as a place in rows of 94, two rows to a first byte. -/
def shiftDouble (a b : Nat) : Option Char :=
  if b < 0x40 || b = 0x7f || 0xfc < b then none
  else if (0x81 ≤ a && a ≤ 0x9f) || (0xe0 ≤ a && a ≤ 0xfc) then
    let row := 2 * (if a < 0xe0 then a - 0x81 else a - 0xc1)
    CharacterSet.jisX0208.char? (row + column b / 94) (column b % 94)
  else none

def cp932Signs : List (Nat × String) := [
  (0x8160, "～∥"), (0x817c, "－"), (0x8191, "￠￡"), (0x81ca, "￢"), (0x8740, "①②③④⑤⑥⑦⑧⑨⑩⑪⑫⑬⑭⑮⑯⑰⑱⑲⑳ⅠⅡⅢⅣⅤⅥⅦⅧⅨⅩ"),
  (0x875f, "㍉㌔㌢㍍㌘㌧㌃㌶㍑㍗㌍㌦㌣㌫㍊㌻㎜㎝㎞㎎㎏㏄㎡"), (0x877e, "㍻"), (0x8780, "〝〟№㏍℡㊤㊥㊦㊧㊨㈱㈲㈹㍾㍽㍼≒≡∫∮∑√⊥∠∟⊿∵∩∪"),
  (0xed40, "纊褜鍈銈蓜俉炻昱棈鋹曻彅丨仡仼伀伃伹佖侒侊侚侔俍偀倢俿倞偆偰偂傔僴僘兊兤冝冾凬刕劜劦勀勛匀匇匤卲厓厲叝﨎咜咊咩哿喆坙坥垬埈埇﨏"),
  (0xed80, "塚增墲夋奓奛奝奣妤妺孖寀甯寘寬尞岦岺峵崧嵓﨑嵂嵭嶸嶹巐弡弴彧德忞恝悅悊惞惕愠惲愑愷愰憘戓抦揵摠撝擎敎昀昕昻昉昮昞昤晥晗晙晴晳暙暠"),
  (0xedc0, "暲暿曺朎朗杦枻桒柀栁桄棏﨓楨﨔榘槢樰橫橆橳橾櫢櫤毖氿汜沆汯泚洄涇浯涖涬淏淸淲淼渹湜渧渼溿澈澵濵瀅瀇瀨炅炫焏焄煜煆煇凞燁燾犱"),
  (0xee40, "犾猤猪獷玽珉珖珣珒琇珵琦琪琩琮瑢璉璟甁畯皂皜皞皛皦益睆劯砡硎硤硺礰礼神祥禔福禛竑竧靖竫箞精絈絜綷綠緖繒罇羡羽茁荢荿菇菶葈蒴蕓蕙"),
  (0xee80, "蕫﨟薰蘒﨡蠇裵訒訷詹誧誾諟諸諶譓譿賰賴贒赶﨣軏﨤逸遧郞都鄕鄧釚釗釞釭釮釤釥鈆鈐鈊鈺鉀鈼鉎鉙鉑鈹鉧銧鉷鉸鋧鋗鋙鋐﨧鋕鋠鋓錥錡鋻﨨錞"),
  (0xeec0, "鋿錝錂鍰鍗鎤鏆鏞鏸鐱鑅鑈閒隆﨩隝隯霳霻靃靍靏靑靕顗顥飯飼餧館馞驎髙髜魵魲鮏鮱鮻鰀鵰鵫鶴鸙黑"), (0xeeef, "ⅰⅱⅲⅳⅴⅵⅶⅷⅸⅹ￢￤＇＂"),
  (0xfa40, "ⅰⅱⅲⅳⅴⅵⅶⅷⅸⅹⅠⅡⅢⅣⅤⅥⅦⅧⅨⅩ￢￤＇＂㈱№℡∵纊褜鍈銈蓜俉炻昱棈鋹曻彅丨仡仼伀伃伹佖侒侊侚侔俍偀倢俿倞偆偰偂傔僴僘兊"),
  (0xfa80, "兤冝冾凬刕劜劦勀勛匀匇匤卲厓厲叝﨎咜咊咩哿喆坙坥垬埈埇﨏塚增墲夋奓奛奝奣妤妺孖寀甯寘寬尞岦岺峵崧嵓﨑嵂嵭嶸嶹巐弡弴彧德忞恝悅悊惞"),
  (0xfac0, "惕愠惲愑愷愰憘戓抦揵摠撝擎敎昀昕昻昉昮昞昤晥晗晙晴晳暙暠暲暿曺朎朗杦枻桒柀栁桄棏﨓楨﨔榘槢樰橫橆橳橾櫢櫤毖氿汜沆汯泚洄涇浯"),
  (0xfb40, "涖涬淏淸淲淼渹湜渧渼溿澈澵濵瀅瀇瀨炅炫焏焄煜煆煇凞燁燾犱犾猤猪獷玽珉珖珣珒琇珵琦琪琩琮瑢璉璟甁畯皂皜皞皛皦益睆劯砡硎硤硺礰礼神"),
  (0xfb80, "祥禔福禛竑竧靖竫箞精絈絜綷綠緖繒罇羡羽茁荢荿菇菶葈蒴蕓蕙蕫﨟薰蘒﨡蠇裵訒訷詹誧誾諟諸諶譓譿賰賴贒赶﨣軏﨤逸遧郞都鄕鄧釚釗釞釭釮釤"),
  (0xfbc0, "釥鈆鈐鈊鈺鉀鈼鉎鉙鉑鈹鉧銧鉷鉸鋧鋗鋙鋐﨧鋕鋠鋓錥錡鋻﨨錞鋿錝錂鍰鍗鎤鏆鏞鏸鐱鑅鑈閒隆﨩隝隯霳霻靃靍靏靑靕顗顥飯飼餧館馞驎髙"), (0xfc40, "髜魵魲鮏鮱鮻鰀鵰鵫鶴鸙黑")]

def cp932Private? (a b : Nat) : Option Char :=
  if 0xf0 ≤ a && a ≤ 0xf9 && 0x40 ≤ b && b != 0x7f && b ≤ 0xfc then
    some (Char.ofNat (0xe000 + 188 * (a - 0xf0) + column b))
  else none

def cp932Single (a : Nat) : Option Char :=
  if a ≤ 0x80 then some (Char.ofNat a)
  else if a = 0xa0 then some (Char.ofNat 0xf8f0)
  else if 0xfd ≤ a then some (Char.ofNat (0xf8f1 + (a - 0xfd)))
  else halfWide? a

def eucJpDouble (a b : Nat) : Option Char :=
  if a = 0x8e then halfWide? b else CharacterSet.jisX0208.pair? 0xa1 a b

/-- Three bytes, of which the first chooses the second set. -/
def eucJpLonger : List Nat → Option ByteStep
  | 0x8f :: rest =>
    match rest with
    | a :: b :: _ => some ((CharacterSet.jisX0212.pair? 0xa1 a b).elim .bad fun c => .char c 3)
    | _ => some .short
  | _ => none

/-! ### All of them -/

def noLonger (_ : List Nat) : Option ByteStep := none

def reader : Multibyte → ByteReader
  | gb2312 => ⟨ascii, noLonger, gb2312Double⟩
  | gbk => ⟨ascii, noLonger, gbkDouble⟩
  | gb18030 => ⟨ascii, gb18030Longer, gb18030Double⟩
  | eucKr => ⟨ascii, eucKrLonger, eucKrDouble⟩
  | cp949 => ⟨ascii, noLonger, cp949Double⟩
  | big5 => ⟨ascii, noLonger, big5Double⟩
  | cp950 => ⟨ascii, noLonger, cp950Double⟩
  | shiftJis => ⟨fun a => (ascii a).or (halfWide? a), noLonger, shiftDouble⟩
  | cp932 => ⟨cp932Single, noLonger, fun a b =>
      ((strip? cp932Signs a b).or (shiftDouble a b)).or (cp932Private? a b)⟩
  | eucJp => ⟨ascii, eucJpLonger, eucJpDouble⟩

def decode (m : Multibyte) (bs : List UInt8) : Text := m.reader.decode (bs.map (·.toNat))

end Multibyte

end SourceChunks
