import SignedHttp.Settings.File.Spelled
import SignedHttp.Text.CodePage.Table
import SignedHttp.Text.DoubleByte
import SignedHttp.Text.Escaped
import SignedHttp.Text.Utf7
import SignedHttp.Text.Utf8

/-!
# Encodings of settings files

A settings file is written in UTF-8 and is read so too, unless another encoding is named: one
with a byte for each character, as a code page, Latin-1 or ASCII, one with two bytes, one with
wide units, or one with escapes. Letter case makes no difference to the name of an encoding, and
all that is no letter, digit or point only parts its words. Some names are those of encodings
whose bytes are no text, and cannot be used.

Wide units without a byte order need a mark that says it, which no text in UTF-8 begins with.

Key definitions: `Encoding`, `Encoding.ofName`, `Encoding.decode`, `Encoding.reread`.
-/

namespace SignedHttp.Settings.File

open Text (ByteOrder CodePage DoubleByte Undecodable)

inductive Encoding where
  | utf8
  /-- UTF-8 behind a byte order mark, which is no part of the text. -/
  | markedUtf8
  | utf7
  /-- Units of two bytes, whose order may have to be marked. -/
  | utf16 (order : Option ByteOrder)
  /-- Units of four bytes, whose order may have to be marked. -/
  | utf32 (order : Option ByteOrder)
  | latin1
  | ascii
  /-- ASCII with shifts to other sets. -/
  | shifted (name : String)
  | tilde
  /-- The spelling that labels of host names have. -/
  | spelled
  | codePage (page : CodePage)
  | doubleByte (encoding : DoubleByte) (name : String)
  | escaped (isRaw : Bool)
  /-- The encoding that refuses every text. -/
  | refusing
deriving DecidableEq, Repr

namespace Encoding

/-- The names of each encoding but the code pages and those that follow. Of all names of an
encoding the first is its own. -/
def names : List (Encoding × List String) :=
  [(.utf8, ["utf_8", "utf8", "utf", "u8", "cp65001", "utf8_ucs2", "utf8_ucs4"]),
    (.markedUtf8, ["utf_8_sig"]),
    (.utf7, ["utf_7", "utf7", "u7", "unicode_1_1_utf_7"]),
    (.utf16 none, ["utf_16", "utf16", "u16"]),
    (.utf16 (some .leastFirst), ["utf_16_le", "utf_16le", "unicodelittleunmarked"]),
    (.utf16 (some .leastLast), ["utf_16_be", "utf_16be", "unicodebigunmarked"]),
    (.utf32 none, ["utf_32", "utf32", "u32"]),
    (.utf32 (some .leastFirst), ["utf_32_le", "utf_32le"]),
    (.utf32 (some .leastLast), ["utf_32_be", "utf_32be"]),
    (.latin1, ["latin_1", "latin1", "latin", "l1", "iso8859_1", "iso_8859_1",
      "iso_8859_1_1987", "iso8859", "8859", "iso_ir_100", "cp819", "ibm819", "csisolatin1"]),
    (.latin1, ["charmap"]),
    (.ascii, ["ascii", "us_ascii", "us", "646", "iso646_us", "iso_646.irv_1991", "iso_ir_6",
      "ansi_x3.4_1968", "ansi_x3_4_1968", "ansi_x3.4_1986", "cp367", "ibm367", "csascii"]),
    (.ascii, ["idna"]),
    (.escaped false, ["unicode_escape"]),
    (.escaped true, ["raw_unicode_escape"]),
    (.tilde, ["hz", "hz_gb", "hz_gb_2312", "hzgb"]),
    (.spelled, ["punycode"]),
    (.refusing, ["undefined"])]

/-- The names of the encodings in two bytes. Messages call them by their own. Where a set
extends one of these, only the characters of this one are known. -/
def doubleByteNames : List (DoubleByte × List String) :=
  [(.shiftJis false, ["shift_jis", "csshiftjis", "s_jis", "shiftjis", "sjis", "x_mac_japanese"]),
    (.shiftJis true, ["shift_jis_2004", "s_jis_2004", "shiftjis2004", "sjis_2004"]),
    (.shiftJis true, ["shift_jisx0213", "s_jisx0213", "shiftjisx0213", "sjisx0213"]),
    (.shiftJisVendor, ["cp932", "932", "ms932", "ms_kanji", "mskanji"]),
    (.eucJapanese, ["euc_jp", "eucjp", "u_jis", "ujis"]),
    (.eucJapanese, ["euc_jis_2004", "euc_jis2004", "eucjis2004", "jisx0213"]),
    (.eucJapanese, ["euc_jisx0213", "eucjisx0213"]),
    (.chinese, ["gb2312", "chinese", "csiso58gb231280", "euc_cn", "euccn", "eucgb2312_cn",
      "gb2312_1980", "gb2312_80", "iso_ir_58", "x_mac_simp_chinese"]),
    (.chineseExtended, ["gbk", "936", "cp936", "ms936"]),
    (.chineseLast, ["gb18030", "gb18030_2000"]),
    (.traditional, ["big5", "big5_tw", "csbig5", "x_mac_trad_chinese"]),
    (.traditional, ["big5hkscs", "big5_hkscs", "hkscs"]),
    (.traditionalVendor, ["cp950", "950", "ms950"]),
    (.korean, ["euc_kr", "euckr", "korean", "ks_c_5601", "ks_c_5601_1987", "ks_x_1001", "ksc5601",
      "ksx1001", "x_mac_korean"]),
    (.koreanExtended, ["cp949", "949", "ms949", "uhc"]),
    (.koreanParts, ["johab", "cp1361", "ms1361"])]

/-- The names of the encodings that escapes shift between sets. Messages call them by their
own. The escapes stay as they are, and with them the characters that ASCII has. -/
def shiftedNames : List (List String) :=
  [["iso2022_jp", "csiso2022jp", "iso2022jp", "iso_2022_jp"],
    ["iso2022_jp_1", "iso2022jp_1", "iso_2022_jp_1"],
    ["iso2022_jp_2", "iso2022jp_2", "iso_2022_jp_2"],
    ["iso2022_jp_3", "iso2022jp_3", "iso_2022_jp_3"],
    ["iso2022_jp_2004", "iso2022jp_2004", "iso_2022_jp_2004"],
    ["iso2022_jp_ext", "iso2022jp_ext", "iso_2022_jp_ext"],
    ["iso2022_kr", "csiso2022kr", "iso2022kr", "iso_2022_kr"]]

/-- The names of encodings whose bytes are no text. -/
def otherNames : List (List String) :=
  [["base64_codec", "base64", "base_64"], ["bz2_codec", "bz2"], ["hex_codec", "hex"],
    ["quopri_codec", "quopri", "quoted_printable", "quotedprintable"], ["rot_13", "rot13"],
    ["uu_codec", "uu"], ["zlib_codec", "zlib", "zip"]]

def all : List (Encoding × List String) :=
  names ++ CodePage.all.map (fun (names, page) => (.codePage page, names)) ++
    doubleByteNames.map (fun (encoding, names) =>
      (.doubleByte encoding (names.headD ""), names)) ++
    shiftedNames.map fun names => (.shifted (names.headD ""), names)

/-- The words of a name in lower case, with a low line between them. -/
def plainName (name : String) : String :=
  let words := (name.map fun c => if c.isAlphanum || c = '.' then c.toLower else ' ').splitOn " "
  "_".intercalate (words.filter (!·.isEmpty))

/-- The name of the encoding that files have in general. -/
def generalName : String := "locale"

/-- Whether a plain name is one of those of an encoding. In all but its own name a point can
stand for a low line. -/
def isNamed (plain : String) (names : List String) : Bool :=
  names.contains plain || names.tail.contains (plain.replace "." "_")

def ofName (name : String) : Except SourceDefect Encoding :=
  let plain := plainName name
  if name.toList.contains '\x00' then .error .nullInEncoding
  else if name = generalName then .ok .utf8
  else match all.find? fun (_, names) => isNamed plain names with
    | some (encoding, _) => .ok encoding
    | none =>
      .error (if otherNames.any (isNamed plain) then .noTextEncoding name
        else .unknownEncoding name)

/-- Refuses units of `size` bytes whose order is not marked, unless there are none. -/
def checkMark (form : String) (size : Nat) (bytes : List UInt8) : Except SourceDefect Unit :=
  if size ≤ bytes.length then .error (.unmarked form) else .ok ()

def readText (result : Except Undecodable (List Char)) : Except SourceDefect String :=
  String.ofList <$> result.mapError .undecodable

/-- What a text is read as in an encoding after it was written in UTF-8. -/
def reread (text : String) (encoding : Encoding) : Except SourceDefect String :=
  let bytes := Text.Utf8.encode text
  match encoding with
  | utf8 => .ok text
  | markedUtf8 =>
    match text.toList with
    | '\ufeff' :: s => .ok (.ofList s)
    | _ => .ok text
  | utf7 => readText (Text.Utf7.decodeFrom 0 none bytes)
  | utf16 (some order) => readText (Text.Wide.decode16 order 0 bytes)
  | utf16 none => do
    let text ← readText (Text.Wide.decode16 .leastFirst 0 bytes)
    checkMark "UTF-16" 2 bytes
    return text
  | utf32 (some order) => readText (Text.Wide.decode32 order 0 bytes)
  | utf32 none => do
    let text ← readText (Text.Wide.decode32 .leastFirst 0 bytes)
    checkMark "UTF-32" 4 bytes
    return text
  | latin1 => .ok (.ofList (bytes.map fun byte => .ofNat byte.toNat))
  | ascii => readText (Text.Ascii.decodeFrom "ascii" .notAscii 0 bytes)
  | shifted name => readText (Text.Ascii.decodeFrom name .illegalSequence 0 bytes)
  | codePage page => readText (page.decodeFrom 0 bytes)
  | doubleByte encoding name => readText (encoding.decodeFrom name 0 bytes)
  | escaped isRaw => readText (Text.Escaped.decodeFrom isRaw 0 bytes)
  | tilde => readText (DoubleByte.tildeFrom false 0 bytes)
  | spelled => Spelled.decode bytes
  | refusing => .error .undefinedEncoding

end Encoding

end SignedHttp.Settings.File
