import JobMeter.Failure
import JobMeter.Text.CodePage
import JobMeter.Text.Punycode
import JobMeter.Text.Utf8

/-!
# Charsets

A charset tells how bytes are read as text.  `Charset.named` finds a charset under one of its
names, and a `Decoder` reads bytes that arrive in pieces: between two pieces it holds the bytes of a
character that is not complete.  What cannot be read becomes the replacement character.

Some codings have names as charsets have them but read no texts (`Misuse`).

Of the charsets in `asciiOnly` only the names are known: those of East Asia, whose characters have
several bytes, and three that spell characters with others.  Each of their bytes is read as ASCII,
and an escape sequence without an end, at which some of them give up, is not noticed.
-/

namespace JobMeter.Text

/-- The order of the bytes of a unit. -/
inductive ByteOrder where
  | little
  | big
  deriving DecidableEq, Repr

/-- What a coding is for that is not for the texts of bytes. -/
inductive Misuse where
  /-- It makes texts of texts. -/
  | texts
  /-- It makes bytes of bytes. -/
  | bytes
  /-- It makes bytes of bytes, and cannot even be taken into use. -/
  | archives
  /-- It is for the names of hosts, and lets no error pass. -/
  | hosts
  /-- It is there to fail. -/
  | nothing
  deriving DecidableEq

/-- The failure of a coding that is not for the texts of bytes. -/
def Misuse.failure : Misuse → Failure
  | texts =>
    Failure.of (.foreign "TypeError")
      "descriptor 'translate' for 'str' objects doesn't apply to a 'bytes' object"
  | bytes | archives => Failure.of (.foreign "AssertionError") ""
  | hosts => Failure.of .charset "Unsupported error handling replace"
  | nothing => Failure.of .charset "undefined encoding"

/-- How bytes are read as text. -/
inductive Charset where
  /-- UTF-8; a mark at the start may be passed over. -/
  | utf8 (passMark : Bool)
  /-- UTF-16; without an order there is a mark at the start that tells it. -/
  | utf16 (order : Option ByteOrder)
  /-- UTF-32; without an order there is a mark at the start that tells it. -/
  | utf32 (order : Option ByteOrder)
  /-- Each byte is a character, if there is one at its place. -/
  | page (chars : List Char)
  /-- Each piece is a text of its own, written in ASCII. -/
  | punycode
  /-- Nothing is read. -/
  | misused (m : Misuse)
  deriving DecidableEq

namespace Charset

/-! ## Names -/

/-- The names that charsets go by beside their proper ones. -/
def otherNames : List (String × List String) :=
  [("ascii", ["646", "ansi_x3.4_1968", "ansi_x3.4_1986", "ansi_x3_4_1968", "cp367",
    "csascii", "ibm367", "iso646_us", "iso_646.irv_1991", "iso_ir_6", "us", "us_ascii"]),
   ("base64_codec", ["base64", "base_64"]),
   ("big5", ["big5_tw", "csbig5", "x_mac_trad_chinese"]),
   ("big5hkscs", ["big5_hkscs", "hkscs"]),
   ("bz2_codec", ["bz2"]),
   ("cp037", ["037", "csibm037", "ebcdic_cp_ca", "ebcdic_cp_nl", "ebcdic_cp_us",
    "ebcdic_cp_wt", "ibm037", "ibm039"]),
   ("cp1026", ["1026", "csibm1026", "ibm1026"]),
   ("cp1125", ["1125", "cp866u", "ibm1125", "ruscii"]),
   ("cp1140", ["1140", "ibm1140"]),
   ("cp1250", ["1250", "windows_1250"]),
   ("cp1251", ["1251", "windows_1251"]),
   ("cp1252", ["1252", "windows_1252"]),
   ("cp1253", ["1253", "windows_1253"]),
   ("cp1254", ["1254", "windows_1254"]),
   ("cp1255", ["1255", "windows_1255"]),
   ("cp1256", ["1256", "windows_1256"]),
   ("cp1257", ["1257", "windows_1257"]),
   ("cp1258", ["1258", "windows_1258"]),
   ("cp273", ["273", "csibm273", "ibm273"]),
   ("cp424", ["424", "csibm424", "ebcdic_cp_he", "ibm424"]),
   ("cp437", ["437", "cspc8codepage437", "ibm437"]),
   ("cp500", ["500", "csibm500", "ebcdic_cp_be", "ebcdic_cp_ch", "ibm500"]),
   ("cp775", ["775", "cspc775baltic", "ibm775"]),
   ("cp850", ["850", "cspc850multilingual", "ibm850"]),
   ("cp852", ["852", "cspcp852", "ibm852"]),
   ("cp855", ["855", "csibm855", "ibm855"]),
   ("cp857", ["857", "csibm857", "ibm857"]),
   ("cp858", ["858", "csibm858", "ibm858"]),
   ("cp860", ["860", "csibm860", "ibm860"]),
   ("cp861", ["861", "cp_is", "csibm861", "ibm861"]),
   ("cp862", ["862", "cspc862latinhebrew", "ibm862"]),
   ("cp863", ["863", "csibm863", "ibm863"]),
   ("cp864", ["864", "csibm864", "ibm864"]),
   ("cp865", ["865", "csibm865", "ibm865"]),
   ("cp866", ["866", "csibm866", "ibm866"]),
   ("cp869", ["869", "cp_gr", "csibm869", "ibm869"]),
   ("cp932", ["932", "ms932", "ms_kanji", "mskanji"]),
   ("cp949", ["949", "ms949", "uhc"]),
   ("cp950", ["950", "ms950"]),
   ("euc_jis_2004", ["euc_jis2004", "eucjis2004", "jisx0213"]),
   ("euc_jisx0213", ["eucjisx0213"]),
   ("euc_jp", ["eucjp", "u_jis", "ujis"]),
   ("euc_kr", ["euckr", "korean", "ks_c_5601", "ks_c_5601_1987", "ks_x_1001", "ksc5601",
    "ksx1001", "x_mac_korean"]),
   ("gb18030", ["gb18030_2000"]),
   ("gb2312", ["chinese", "csiso58gb231280", "euc_cn", "euccn", "eucgb2312_cn",
    "gb2312_1980", "gb2312_80", "iso_ir_58", "x_mac_simp_chinese"]),
   ("gbk", ["936", "cp936", "ms936"]),
   ("hex_codec", ["hex"]),
   ("hp_roman8", ["cp1051", "ibm1051", "r8", "roman8"]),
   ("hz", ["hz_gb", "hz_gb_2312", "hzgb"]),
   ("iso2022_jp", ["csiso2022jp", "iso2022jp", "iso_2022_jp"]),
   ("iso2022_jp_1", ["iso2022jp_1", "iso_2022_jp_1"]),
   ("iso2022_jp_2", ["iso2022jp_2", "iso_2022_jp_2"]),
   ("iso2022_jp_2004", ["iso2022jp_2004", "iso_2022_jp_2004"]),
   ("iso2022_jp_3", ["iso2022jp_3", "iso_2022_jp_3"]),
   ("iso2022_jp_ext", ["iso2022jp_ext", "iso_2022_jp_ext"]),
   ("iso2022_kr", ["csiso2022kr", "iso2022kr", "iso_2022_kr"]),
   ("iso8859_10", ["csisolatin6", "iso_8859_10", "iso_8859_10_1992", "iso_ir_157", "l6",
    "latin6"]),
   ("iso8859_11", ["iso_8859_11", "iso_8859_11_2001", "thai"]),
   ("iso8859_13", ["iso_8859_13", "l7", "latin7"]),
   ("iso8859_14", ["iso_8859_14", "iso_8859_14_1998", "iso_celtic", "iso_ir_199", "l8",
    "latin8"]),
   ("iso8859_15", ["iso_8859_15", "l9", "latin9"]),
   ("iso8859_16", ["iso_8859_16", "iso_8859_16_2001", "iso_ir_226", "l10", "latin10"]),
   ("iso8859_2", ["csisolatin2", "iso_8859_2", "iso_8859_2_1987", "iso_ir_101", "l2",
    "latin2"]),
   ("iso8859_3", ["csisolatin3", "iso_8859_3", "iso_8859_3_1988", "iso_ir_109", "l3",
    "latin3"]),
   ("iso8859_4", ["csisolatin4", "iso_8859_4", "iso_8859_4_1988", "iso_ir_110", "l4",
    "latin4"]),
   ("iso8859_5", ["csisolatincyrillic", "cyrillic", "iso_8859_5", "iso_8859_5_1988",
    "iso_ir_144"]),
   ("iso8859_6", ["arabic", "asmo_708", "csisolatinarabic", "ecma_114", "iso_8859_6",
    "iso_8859_6_1987", "iso_ir_127"]),
   ("iso8859_7", ["csisolatingreek", "ecma_118", "elot_928", "greek", "greek8", "iso_8859_7",
    "iso_8859_7_1987", "iso_ir_126"]),
   ("iso8859_8", ["csisolatinhebrew", "hebrew", "iso_8859_8", "iso_8859_8_1988", "iso_ir_138"]),
   ("iso8859_9", ["csisolatin5", "iso_8859_9", "iso_8859_9_1989", "iso_ir_148", "l5",
    "latin5"]),
   ("johab", ["cp1361", "ms1361"]),
   ("koi8_r", ["cskoi8r"]),
   ("kz1048", ["kz_1048", "rk1048", "strk1048_2002"]),
   ("latin_1", ["8859", "cp819", "csisolatin1", "ibm819", "iso8859", "iso8859_1",
    "iso_8859_1", "iso_8859_1_1987", "iso_ir_100", "l1", "latin", "latin1"]),
   ("mac_cyrillic", ["maccyrillic"]),
   ("mac_greek", ["macgreek"]),
   ("mac_iceland", ["maciceland"]),
   ("mac_latin2", ["mac_centeuro", "maccentraleurope", "maclatin2"]),
   ("mac_roman", ["macintosh", "macroman"]),
   ("mac_turkish", ["macturkish"]),
   ("ptcp154", ["cp154", "csptcp154", "cyrillic_asian", "pt154"]),
   ("quopri_codec", ["quopri", "quoted_printable", "quotedprintable"]),
   ("rot_13", ["rot13"]),
   ("shift_jis", ["csshiftjis", "s_jis", "shiftjis", "sjis", "x_mac_japanese"]),
   ("shift_jis_2004", ["s_jis_2004", "shiftjis2004", "sjis_2004"]),
   ("shift_jisx0213", ["s_jisx0213", "shiftjisx0213", "sjisx0213"]),
   ("tis_620", ["iso_ir_166", "tis620", "tis_620_0", "tis_620_2529_0", "tis_620_2529_1"]),
   ("utf_16", ["u16", "utf16"]),
   ("utf_16_be", ["unicodebigunmarked", "utf_16be"]),
   ("utf_16_le", ["unicodelittleunmarked", "utf_16le"]),
   ("utf_32", ["u32", "utf32"]),
   ("utf_32_be", ["utf_32be"]),
   ("utf_32_le", ["utf_32le"]),
   ("utf_7", ["u7", "unicode_1_1_utf_7", "utf7"]),
   ("utf_8", ["cp65001", "u8", "utf", "utf8", "utf8_ucs2", "utf8_ucs4"]),
   ("uu_codec", ["uu"]),
   ("zlib_codec", ["zip", "zlib"])]

/-- Charsets of which only ASCII is read. -/
def asciiOnly : List String :=
  ["big5", "big5hkscs", "cp932", "cp949", "cp950", "euc_jis_2004", "euc_jisx0213", "euc_jp",
   "euc_kr", "gb18030", "gb2312", "gbk", "hz", "iso2022_jp", "iso2022_jp_1", "iso2022_jp_2",
   "iso2022_jp_2004", "iso2022_jp_3", "iso2022_jp_ext", "iso2022_kr", "johab", "shift_jis",
   "shift_jis_2004", "shift_jisx0213", "utf_7", "raw_unicode_escape", "unicode_escape"]

/-- The charset in which each byte is the number of its character. -/
def direct : Charset := .page ((List.range 256).map Char.ofNat)

/-- Charsets that are no code pages, and code pages that are no tables. -/
def known : List (String × Charset) :=
  [("utf_8", .utf8 false), ("utf_8_sig", .utf8 true),
   ("utf_16", .utf16 none), ("utf_16_le", .utf16 (some .little)),
   ("utf_16_be", .utf16 (some .big)),
   ("utf_32", .utf32 none), ("utf_32_le", .utf32 (some .little)),
   ("utf_32_be", .utf32 (some .big)),
   ("ascii", .page CodePage.ascii),
   ("latin_1", direct), ("iso8859_1", direct), ("charmap", direct),
   ("punycode", .punycode),
   ("rot_13", .misused .texts),
   ("hex_codec", .misused .bytes), ("base64_codec", .misused .bytes),
   ("quopri_codec", .misused .bytes), ("uu_codec", .misused .bytes),
   ("bz2_codec", .misused .archives), ("zlib_codec", .misused .archives),
   ("undefined", .misused .nothing), ("idna", .misused .hosts)]

/-- The charset with a proper name. -/
def proper? (name : String) : Option Charset :=
  if asciiOnly.contains name then some (.page CodePage.ascii)
  else (known.lookup name).or ((CodePage.find? name).map .page)

/-- The proper name of the charset that goes by another name. -/
def properName? (name : String) : Option String :=
  (otherNames.find? fun (_, names) => names.contains name).map (·.1)

/-- Is the character one that counts in a name? -/
def countsInName (c : Char) : Bool := c.isAlphanum || c == '.'

/-- A name with small letters, in which an underscore stands for what does not count. -/
def normalName (t : Text) : String :=
  let folded := t.foldl (fun (out, gap) p =>
    match p.toChar? with
    | some c =>
      if countsInName c then
        (c.toLower :: if gap && !out.isEmpty then '_' :: out else out, false)
      else (out, true)
    | none => (out, true)) (([] : List Char), false)
  String.ofList folded.1.reverse

/-- The charset with a normal name.  In other names an underscore may stand for a full stop. -/
def find? (name : String) : Option Charset :=
  let underlined := name.map fun c => if c = '.' then '_' else c
  (((properName? name).or (properName? underlined)).bind proper?).or (proper? name)

/-- The charset with a name. -/
def named (t : Text) : Except Failure Charset :=
  if !t.encodable then .error ⟨.unencodable, [], none⟩
  else if t.holds '\x00' then .error (Failure.of .invalidValue "embedded null character")
  else
    match find? (normalName t) with
    | some (.misused .archives) => .error Misuse.archives.failure
    | some c => .ok c
    | none => .error ⟨.unknownCharset, text "unknown encoding: " ++ t, none⟩

end Charset

/-! ## Decoding -/

/-- The value of bytes, in an order. -/
def unitValue (order : ByteOrder) (bytes : List UInt8) : Nat :=
  let bytes := match order with
    | .little => bytes.reverse
    | .big => bytes
  bytes.foldl (fun n b => 256 * n + b.toNat) 0

/-- The character of a number, if it has one. -/
def scalar (n : Nat) : CodePoint :=
  let p := CodePoint.ofNat n
  if p.isSurrogate then CodePoint.replacement else p

/-- The text of 16-bit units, and the bytes of a character that is not complete. -/
def decodeUnits16 (order : ByteOrder) : List UInt8 → Text × List UInt8
  | a :: b :: r =>
    let u := unitValue order [a, b]
    if 0xD800 ≤ u ∧ u < 0xDC00 then
      match r with
      | c :: d :: r' =>
        let v := unitValue order [c, d]
        if 0xDC00 ≤ v ∧ v < 0xE000 then
          let (t, held) := decodeUnits16 order r'
          (CodePoint.ofNat (0x10000 + (u - 0xD800) * 0x400 + (v - 0xDC00)) :: t, held)
        else
          let (t, held) := decodeUnits16 order (c :: d :: r')
          (CodePoint.replacement :: t, held)
      | _ => ([], a :: b :: r)
    else
      let (t, held) := decodeUnits16 order r
      (scalar u :: t, held)
  | r => ([], r)

/-- The text of 32-bit units, and the bytes of a unit that is not complete. -/
def decodeUnits32 (order : ByteOrder) : List UInt8 → Text × List UInt8
  | a :: b :: c :: d :: r =>
    let (t, held) := decodeUnits32 order r
    (scalar (unitValue order [a, b, c, d]) :: t, held)
  | r => ([], r)

/-- A charset in use. -/
structure Decoder where
  charset : Charset
  /-- Has nothing been read yet? -/
  fresh : Bool := true
  /-- Bytes of a character that is not complete. -/
  held : List UInt8 := []
  /-- A UTF-8 sequence that is not complete. -/
  sequence : Option Utf8.Sequence := none

namespace Decoder

/-- Reads UTF-8. -/
def readUtf8 (d : Decoder) (bytes : List UInt8) : Text × Decoder :=
  let (out, sequence) := Utf8.run false [] d.sequence bytes
  (out.map (·.getD CodePoint.replacement), { d with fresh := false, held := [], sequence })

/-- A text without a mark at its start. -/
def missingMark (name : String) : Failure :=
  Failure.of .charset (name ++ " stream does not start with BOM")

/-- Reads a piece. -/
def read (d : Decoder) (piece : List UInt8) : Except Failure (Text × Decoder) :=
  let bytes := d.held ++ piece
  match d.charset with
  | .page chars =>
    let chars := chars.toArray
    .ok (piece.map fun b =>
      (chars[b.toNat]?.map CodePoint.ofChar).getD CodePoint.replacement, d)
  | .punycode =>
    match Punycode.decode? piece with
    | some t => .ok (t, d)
    | none => .error ⟨.undecodable, [], none⟩
  | .misused m => .error m.failure
  | .utf8 false => .ok (d.readUtf8 piece)
  | .utf8 true =>
    if d.fresh then
      let mark := [0xEF, 0xBB, 0xBF]
      if bytes.length < 3 && bytes.isPrefixOf mark then .ok ([], { d with held := bytes })
      else if mark.isPrefixOf bytes then .ok (d.readUtf8 (bytes.drop 3))
      else .ok (d.readUtf8 bytes)
    else .ok (d.readUtf8 piece)
  | .utf16 (some order) =>
    let (t, held) := decodeUnits16 order bytes
    .ok (t, { d with held })
  | .utf32 (some order) =>
    let (t, held) := decodeUnits32 order bytes
    .ok (t, { d with held })
  | .utf16 none =>
    match bytes with
    | 0xFF :: 0xFE :: r =>
      let (t, held) := decodeUnits16 .little r
      .ok (t, { d with charset := .utf16 (some .little), held })
    | 0xFE :: 0xFF :: r =>
      let (t, held) := decodeUnits16 .big r
      .ok (t, { d with charset := .utf16 (some .big), held })
    | _ :: _ :: _ => .error (missingMark "UTF-16")
    | r => .ok ([], { d with held := r })
  | .utf32 none =>
    match bytes with
    | 0xFF :: 0xFE :: 0 :: 0 :: r =>
      let (t, held) := decodeUnits32 .little r
      .ok (t, { d with charset := .utf32 (some .little), held })
    | 0 :: 0 :: 0xFE :: 0xFF :: r =>
      let (t, held) := decodeUnits32 .big r
      .ok (t, { d with charset := .utf32 (some .big), held })
    | _ :: _ :: _ :: _ :: _ => .error (missingMark "UTF-32")
    | r => .ok ([], { d with held := r })

/-- What is left at the end: the replacement character for a character that is not complete. -/
def finish (d : Decoder) : Except Failure Text :=
  match d.charset with
  | .misused m => .error m.failure
  | .utf8 _ => .ok (if d.sequence.isSome then [CodePoint.replacement] else [])
  | _ => .ok (if d.held.isEmpty then [] else [CodePoint.replacement])

end Decoder

end JobMeter.Text
