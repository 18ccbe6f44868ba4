import SourceChunks.Failure
import SourceChunks.Text.CodePage
import SourceChunks.Text.Escaped
import SourceChunks.Text.Multibyte
import SourceChunks.Text.Utf7

/-! Texts from bytes. What cannot be decoded becomes the replacement character, and every kind of
line end becomes a newline. -/

namespace SourceChunks

inductive Encoding where
  | utf8
  | utf8Marked
  /-- UTF-16, in an order that is known or else told by a mark in front. -/
  | utf16 (order : Option Utf16.ByteOrder)
  | utf32 (order : Option Utf16.ByteOrder)
  | utf7
  | latin1
  | ascii
  /-- Latin 1 with escapes, of code numbers only or of letters too. -/
  | escaped (letters : Bool)
  | page (p : CodePage)
  | multibyte (m : Multibyte)
  /-- An encoding that refuses to read. -/
  | refusing (why : Failure)
  deriving DecidableEq, Repr

namespace Encoding

/-! ### Names -/

/-- A name in small letters, with one low line for anything between its letters, digits and points. -/
def plainName (name : Text) : Text :=
  let lined := name.map fun c => if c.isAlphanum || c == '.' then c.toLower else '_'
  Text.join ['_'] ((Text.split '_' lined).filter (!·.isEmpty))

/-- Encodings with their own name and other names. There is no encoding where bytes are made of bytes,
or texts of texts. -/
def named : List (Option Encoding × String × List String) := [
  (some utf8, "utf_8", ["u8", "utf", "utf8", "utf8_ucs2", "utf8_ucs4", "cp65001"]),
  (some utf8Marked, "utf_8_sig", []),
  (some (utf16 none), "utf_16", ["u16", "utf16"]),
  (some (utf16 (some .little)), "utf_16_le", ["unicodelittleunmarked", "utf_16le"]),
  (some (utf16 (some .big)), "utf_16_be", ["unicodebigunmarked", "utf_16be"]),
  (some (utf32 none), "utf_32", ["u32", "utf32"]),
  (some (utf32 (some .little)), "utf_32_le", ["utf_32le"]),
  (some (utf32 (some .big)), "utf_32_be", ["utf_32be"]),
  (some utf7, "utf_7", ["u7", "utf7", "unicode_1_1_utf_7"]),
  (some latin1, "latin_1",
    ["8859", "cp819", "csisolatin1", "ibm819", "iso8859", "iso8859_1", "iso_8859_1", "iso_8859_1_1987",
      "iso_ir_100", "l1", "latin", "latin1"]),
  (some latin1, "charmap", []),
  (some ascii, "ascii",
    ["646", "ansi_x3.4_1968", "ansi_x3_4_1968", "ansi_x3.4_1986", "cp367", "csascii", "ibm367", "iso646_us",
      "iso_646.irv_1991", "iso_ir_6", "us", "us_ascii"]),
  (some (escaped true), "unicode_escape", []),
  (some (escaped false), "raw_unicode_escape", []),
  (some (multibyte .gb2312), "gb2312",
    ["chinese", "csiso58gb231280", "euc_cn", "euccn", "eucgb2312_cn", "gb2312_1980", "gb2312_80",
      "iso_ir_58", "x_mac_simp_chinese"]),
  (some (multibyte .gbk), "gbk", ["936", "cp936", "ms936"]),
  (some (multibyte .gb18030), "gb18030", ["gb18030_2000"]),
  (some (multibyte .eucKr), "euc_kr",
    ["euckr", "korean", "ksc5601", "ks_c_5601", "ks_c_5601_1987", "ksx1001", "ks_x_1001", "x_mac_korean"]),
  (some (multibyte .cp949), "cp949", ["949", "ms949", "uhc"]),
  (some (multibyte .big5), "big5", ["big5_tw", "csbig5", "x_mac_trad_chinese"]),
  (some (multibyte .cp950), "cp950", ["950", "ms950"]),
  (some (multibyte .shiftJis), "shift_jis", ["csshiftjis", "shiftjis", "sjis", "s_jis", "x_mac_japanese"]),
  (some (multibyte .cp932), "cp932", ["932", "ms932", "mskanji", "ms_kanji"]),
  (some (multibyte .eucJp), "euc_jp", ["eucjp", "ujis", "u_jis"]),
  (some (refusing .undefinedEncoding), "undefined", []),
  (some (refusing .strictEncoding), "idna", []),
  (none, "base64_codec", ["base64", "base_64"]),
  (none, "bz2_codec", ["bz2"]),
  (none, "hex_codec", ["hex"]),
  (none, "quopri_codec", ["quopri", "quoted_printable", "quotedprintable"]),
  (none, "rot_13", ["rot13"]),
  (none, "uu_codec", ["uu"]),
  (none, "zlib_codec", ["zip", "zlib"])] ++
  CodePage.all.map fun p => (some (page p), p.name, p.aliases)

/-- The encoding of a name. In other names a point may stand for a low line. -/
def ofName (name : Text) : Except Failure Encoding :=
  if name.contains '\x00' then .error (.embeddedNull "character")
  else
    let plain := String.ofList (plainName name)
    let lined := String.ofList ((plainName name).map fun c => if c == '.' then '_' else c)
    match named.find? fun e => e.2.1 == plain || e.2.2.contains plain || e.2.2.contains lined with
    | some (some e, _) => .ok e
    | some (none, _) => .error (.notTextEncoding name)
    | none => .error (.unknownEncoding name)

/-! ### Texts -/

def chars : Encoding → List UInt8 → Except Failure Text
  | utf8, bs => .ok (Utf8.decode bs)
  | utf8Marked, bs => .ok (Utf8.decodeMarked bs)
  | utf16 none, bs => (Utf16.decodeMarked? bs).elim (.error (.missingMark "UTF-16")) .ok
  | utf16 (some o), bs => .ok (Utf16.decode o bs)
  | utf32 none, bs => (Utf32.decodeMarked? bs).elim (.error (.missingMark "UTF-32")) .ok
  | utf32 (some o), bs => .ok (Utf32.decode o bs)
  | utf7, bs => .ok (Utf7.decode bs)
  | latin1, bs => .ok (bs.map fun b => Char.ofNat b.toNat)
  | ascii, bs => .ok (bs.map fun b => if b < 128 then Char.ofNat b.toNat else replacementChar)
  | escaped letters, bs => .ok (Escaped.decode letters bs)
  | page p, bs => .ok (p.decode bs)
  | multibyte m, bs => .ok (m.decode bs)
  | refusing why, _ => .error why

/-- A carriage return, with or without a newline after it, becomes a newline. -/
def unifyLineEnds : Text → Text
  | [] => []
  | '\r' :: '\n' :: cs => '\n' :: unifyLineEnds cs
  | c :: cs => (if c == '\r' then '\n' else c) :: unifyLineEnds cs

def utf8Text (bs : List UInt8) : Text := unifyLineEnds (Utf8.decode bs)

def decode (e : Encoding) (bs : List UInt8) : Except Failure Text := (e.chars bs).map unifyLineEnds

end Encoding

end SourceChunks
