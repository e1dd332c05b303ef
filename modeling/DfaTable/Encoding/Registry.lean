import DfaTable.Encoding

/-!
# DfaTable.Encoding.Registry

The names that encodings go by. A name counts in its normal form (`normalName`), and `named` tells
what it stands for.
-/

namespace DfaTable.Encoding

open Text

/-- All names of each encoding, in their normal form, its own first. -/
def names : List (Encoding × List String) :=
  [(.utf8 false, ["utf_8", "cp65001", "u8", "utf", "utf8", "utf8_ucs2", "utf8_ucs4"]),
   (.utf8 true, ["utf_8_sig"]),
   (.utf7, ["utf_7", "u7", "unicode_1_1_utf_7", "utf7"]),
   (.utf16 .little true, ["utf_16", "u16", "utf16"]),
   (.utf16 .little false, ["utf_16_le", "unicodelittleunmarked", "utf_16le"]),
   (.utf16 .big false, ["utf_16_be", "unicodebigunmarked", "utf_16be"]),
   (.utf32 .little true, ["utf_32", "u32", "utf32"]),
   (.utf32 .little false, ["utf_32_le", "utf_32le"]),
   (.utf32 .big false, ["utf_32_be", "utf_32be"]),
   (.escaping .jp, ["iso2022_jp", "csiso2022jp", "iso2022jp", "iso_2022_jp"]),
   (.escaping .jp1, ["iso2022_jp_1", "iso2022jp_1", "iso_2022_jp_1"]),
   (.escaping .jp2, ["iso2022_jp_2", "iso2022jp_2", "iso_2022_jp_2"]),
   (.escaping .jp3, ["iso2022_jp_3", "iso2022jp_3", "iso_2022_jp_3"]),
   (.escaping .jp2004, ["iso2022_jp_2004", "iso2022jp_2004", "iso_2022_jp_2004"]),
   (.escaping .jpExt, ["iso2022_jp_ext", "iso2022jp_ext", "iso_2022_jp_ext"]),
   (.escaping .kr, ["iso2022_kr", "csiso2022kr", "iso2022kr", "iso_2022_kr"]),
   (.tilde, ["hz", "hz_gb", "hz_gb_2312", "hzgb"]),
   (.escapes, ["unicode_escape"]),
   (.rawEscapes, ["raw_unicode_escape"]),
   (.punycode, ["punycode"]),
   (.domain, ["idna"]),
   (.undefined, ["undefined"]),
   (.latin1,
    ["latin_1", "8859", "cp819", "csisolatin1", "ibm819", "iso8859", "iso8859_1", "iso_8859_1",
     "iso_8859_1_1987", "iso_ir_100", "l1", "latin", "latin1"]),
   (.latin1, ["iso8859_1"]),
   (.latin1, ["charmap"]),
   (.ascii,
    ["ascii", "646", "ansi_x3.4_1968", "ansi_x3.4_1986", "ansi_x3_4_1968", "cp367", "csascii",
     "ibm367", "iso646_us", "iso_646.irv_1991", "iso_ir_6", "us", "us_ascii"]),
   (.page .cp037,
    ["cp037", "037", "csibm037", "ebcdic_cp_ca", "ebcdic_cp_nl", "ebcdic_cp_us", "ebcdic_cp_wt",
     "ibm037", "ibm039"]),
   (.page .cp1006, ["cp1006"]),
   (.page .cp1026, ["cp1026", "1026", "csibm1026", "ibm1026"]),
   (.page .cp1125, ["cp1125", "1125", "cp866u", "ibm1125", "ruscii"]),
   (.page .cp1140, ["cp1140", "1140", "ibm1140"]),
   (.page .cp1250, ["cp1250", "1250", "windows_1250"]),
   (.page .cp1251, ["cp1251", "1251", "windows_1251"]),
   (.page .cp1252, ["cp1252", "1252", "windows_1252"]),
   (.page .cp1253, ["cp1253", "1253", "windows_1253"]),
   (.page .cp1254, ["cp1254", "1254", "windows_1254"]),
   (.page .cp1255, ["cp1255", "1255", "windows_1255"]),
   (.page .cp1256, ["cp1256", "1256", "windows_1256"]),
   (.page .cp1257, ["cp1257", "1257", "windows_1257"]),
   (.page .cp1258, ["cp1258", "1258", "windows_1258"]),
   (.page .cp273, ["cp273", "273", "csibm273", "ibm273"]),
   (.page .cp424, ["cp424", "424", "csibm424", "ebcdic_cp_he", "ibm424"]),
   (.page .cp437, ["cp437", "437", "cspc8codepage437", "ibm437"]),
   (.page .cp500, ["cp500", "500", "csibm500", "ebcdic_cp_be", "ebcdic_cp_ch", "ibm500"]),
   (.page .cp720, ["cp720"]),
   (.page .cp737, ["cp737"]),
   (.page .cp775, ["cp775", "775", "cspc775baltic", "ibm775"]),
   (.page .cp850, ["cp850", "850", "cspc850multilingual", "ibm850"]),
   (.page .cp852, ["cp852", "852", "cspcp852", "ibm852"]),
   (.page .cp855, ["cp855", "855", "csibm855", "ibm855"]),
   (.page .cp856, ["cp856"]),
   (.page .cp857, ["cp857", "857", "csibm857", "ibm857"]),
   (.page .cp858, ["cp858", "858", "csibm858", "ibm858"]),
   (.page .cp860, ["cp860", "860", "csibm860", "ibm860"]),
   (.page .cp861, ["cp861", "861", "cp_is", "csibm861", "ibm861"]),
   (.page .cp862, ["cp862", "862", "cspc862latinhebrew", "ibm862"]),
   (.page .cp863, ["cp863", "863", "csibm863", "ibm863"]),
   (.page .cp864, ["cp864", "864", "csibm864", "ibm864"]),
   (.page .cp865, ["cp865", "865", "csibm865", "ibm865"]),
   (.page .cp866, ["cp866", "866", "csibm866", "ibm866"]),
   (.page .cp869, ["cp869", "869", "cp_gr", "csibm869", "ibm869"]),
   (.page .cp874, ["cp874"]),
   (.page .cp875, ["cp875"]),
   (.page .hpRoman8, ["hp_roman8", "cp1051", "csHPRoman8", "ibm1051", "r8", "roman8"]),
   (.page .iso8859_10,
    ["iso8859_10", "csisolatin6", "iso_8859_10", "iso_8859_10_1992", "iso_ir_157", "l6",
     "latin6"]),
   (.page .iso8859_11, ["iso8859_11", "iso_8859_11", "iso_8859_11_2001", "thai"]),
   (.page .iso8859_13, ["iso8859_13", "iso_8859_13", "l7", "latin7"]),
   (.page .iso8859_14,
    ["iso8859_14", "iso_8859_14", "iso_8859_14_1998", "iso_celtic", "iso_ir_199", "l8", "latin8"]),
   (.page .iso8859_15, ["iso8859_15", "iso_8859_15", "l9", "latin9"]),
   (.page .iso8859_16,
    ["iso8859_16", "iso_8859_16", "iso_8859_16_2001", "iso_ir_226", "l10", "latin10"]),
   (.page .iso8859_2,
    ["iso8859_2", "csisolatin2", "iso_8859_2", "iso_8859_2_1987", "iso_ir_101", "l2", "latin2"]),
   (.page .iso8859_3,
    ["iso8859_3", "csisolatin3", "iso_8859_3", "iso_8859_3_1988", "iso_ir_109", "l3", "latin3"]),
   (.page .iso8859_4,
    ["iso8859_4", "csisolatin4", "iso_8859_4", "iso_8859_4_1988", "iso_ir_110", "l4", "latin4"]),
   (.page .iso8859_5,
    ["iso8859_5", "csisolatincyrillic", "cyrillic", "iso_8859_5", "iso_8859_5_1988",
     "iso_ir_144"]),
   (.page .iso8859_6,
    ["iso8859_6", "arabic", "asmo_708", "csisolatinarabic", "ecma_114", "iso_8859_6",
     "iso_8859_6_1987", "iso_ir_127"]),
   (.page .iso8859_7,
    ["iso8859_7", "csisolatingreek", "ecma_118", "elot_928", "greek", "greek8", "iso_8859_7",
     "iso_8859_7_1987", "iso_ir_126"]),
   (.page .iso8859_8,
    ["iso8859_8", "csisolatinhebrew", "hebrew", "iso_8859_8", "iso_8859_8_1988", "iso_ir_138"]),
   (.page .iso8859_9,
    ["iso8859_9", "csisolatin5", "iso_8859_9", "iso_8859_9_1989", "iso_ir_148", "l5", "latin5"]),
   (.page .koi8R, ["koi8_r", "cskoi8r"]),
   (.page .koi8T, ["koi8_t"]),
   (.page .koi8U, ["koi8_u"]),
   (.page .kz1048, ["kz1048", "kz_1048", "rk1048", "strk1048_2002"]),
   (.page .macArabic, ["mac_arabic"]),
   (.page .macCroatian, ["mac_croatian"]),
   (.page .macCyrillic, ["mac_cyrillic", "maccyrillic"]),
   (.page .macFarsi, ["mac_farsi"]),
   (.page .macGreek, ["mac_greek", "macgreek"]),
   (.page .macIceland, ["mac_iceland", "maciceland"]),
   (.page .macLatin2, ["mac_latin2", "mac_centeuro", "maccentraleurope", "maclatin2"]),
   (.page .macRoman, ["mac_roman", "macintosh", "macroman"]),
   (.page .macRomanian, ["mac_romanian"]),
   (.page .macTurkish, ["mac_turkish", "macturkish"]),
   (.page .palmos, ["palmos"]),
   (.page .ptcp154, ["ptcp154", "cp154", "csptcp154", "cyrillic_asian", "pt154"]),
   (.page .tis620,
    ["tis_620", "iso_ir_166", "tis620", "tis_620_0", "tis_620_2529_0", "tis_620_2529_1"]),
   (.doubleByte .big5, ["big5", "big5_tw", "csbig5", "x_mac_trad_chinese"]),
   (.doubleByte .big5hkscs, ["big5hkscs", "big5_hkscs", "hkscs"]),
   (.doubleByte .cp932, ["cp932", "932", "ms932", "ms_kanji", "mskanji"]),
   (.doubleByte .cp949, ["cp949", "949", "ms949", "uhc"]),
   (.doubleByte .cp950, ["cp950", "950", "ms950"]),
   (.doubleByte .eucJp, ["euc_jp", "eucjp", "u_jis", "ujis"]),
   (.doubleByte (.eucJisx .older), ["euc_jisx0213", "eucjisx0213"]),
   (.doubleByte (.eucJisx .newer), ["euc_jis_2004", "euc_jis2004", "eucjis2004", "jisx0213"]),
   (.doubleByte .eucKr,
    ["euc_kr", "euckr", "korean", "ks_c_5601", "ks_c_5601_1987", "ks_x_1001", "ksc5601", "ksx1001",
     "x_mac_korean"]),
   (.doubleByte .gb18030, ["gb18030", "gb18030_2000"]),
   (.doubleByte .gb2312,
    ["gb2312", "chinese", "csiso58gb231280", "euc_cn", "euccn", "eucgb2312_cn", "gb2312_1980",
     "gb2312_80", "iso_ir_58", "x_mac_simp_chinese"]),
   (.doubleByte .gbk, ["gbk", "936", "cp936", "ms936"]),
   (.doubleByte .johab, ["johab", "cp1361", "ms1361"]),
   (.doubleByte .shiftJis,
    ["shift_jis", "csshiftjis", "s_jis", "shiftjis", "sjis", "x_mac_japanese"]),
   (.doubleByte (.shiftJisx .older),
    ["shift_jisx0213", "s_jisx0213", "shiftjisx0213", "sjisx0213"]),
   (.doubleByte (.shiftJisx .newer), ["shift_jis_2004", "s_jis_2004", "shiftjis2004", "sjis_2004"])]

/-- All names of each transformation that is no encoding of text. -/
def transformNames : List (List String) :=
  [["rot_13", "rot13"], ["base64_codec", "base64", "base_64"], ["hex_codec", "hex"],
   ["bz2_codec", "bz2"], ["quopri_codec", "quopri", "quoted_printable", "quotedprintable"],
   ["uu_codec", "uu"], ["zlib_codec", "zip", "zlib"]]

def isNamePart (c : Char) : Bool := c.isAlphanum || c == '.'

/-- The normal form of a name: lower case, with one underscore for each run of other characters
than ASCII letters, digits and dots, and none at the ends. -/
def normalName (name : Text) : Text :=
  join ['_'] ((splitP (!isNamePart ·) (lower name)).filter (!·.isEmpty))

/-- Whether a name is among those of an encoding, of which the first is its own. Any other one may
be written with dots for underscores. -/
def isListed (name : Text) : List String → Bool
  | [] => false
  | own :: others =>
    let plain := String.ofList (name.map fun c => if c = '.' then '_' else c)
    own == String.ofList name || others.any fun other => other == String.ofList name || other == plain

/-- What a name stands for. -/
inductive Named where
  | encoding (e : Encoding)
  | transform
  | unknown
deriving DecidableEq, Repr

def named (name : Text) : Named :=
  let normal := normalName name
  match names.find? fun entry => isListed normal entry.2 with
  | some (e, _) => .encoding e
  | none => if transformNames.any (isListed normal) then .transform else .unknown

end DfaTable.Encoding
