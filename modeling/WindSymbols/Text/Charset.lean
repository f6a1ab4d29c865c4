import WindSymbols.Text.Cut

/-!
Character sets by name. A text may name its own in a note at the start of its first line, or of its
second line if the first one has nothing but a note. A text in ASCII reads alike in all the sets
listed here, and any text in those of Unicode.
-/

namespace WindSymbols.Text.Charset

def unicodeNames : List String :=
  ["cp65001", "u8", "utf", "utf8", "utf8_ucs2", "utf8_ucs4", "utf_8", "utf_8_sig"]

def asciiNames : List String :=
  ["1125", "1250", "1251", "1252", "1253", "1254", "1255", "1256", "1257", "1258", "437", "646",
    "775", "850", "852", "855", "857", "858", "860", "861", "862", "863", "865", "866", "869",
    "8859", "932", "936", "949", "950", "ansi_x3_4_1968", "ansi_x3_4_1986", "arabic", "ascii",
    "asmo_708", "big5", "big5_hkscs", "big5_tw", "big5hkscs", "charmap", "chinese", "cp1006",
    "cp1051", "cp1125", "cp1250", "cp1251", "cp1252", "cp1253", "cp1254", "cp1255", "cp1256",
    "cp1257", "cp1258", "cp1361", "cp154", "cp367", "cp437", "cp720", "cp737", "cp775", "cp819",
    "cp850", "cp852", "cp855", "cp856", "cp857", "cp858", "cp860", "cp861", "cp862", "cp863",
    "cp865", "cp866", "cp866u", "cp869", "cp874", "cp932", "cp936", "cp949", "cp950", "cp_gr",
    "cp_is", "csascii", "csbig5", "csibm855", "csibm857", "csibm858", "csibm860", "csibm861",
    "csibm863", "csibm865", "csibm866", "csibm869", "csiso2022jp", "csiso58gb231280",
    "csisolatin1", "csisolatin2", "csisolatin3", "csisolatin4", "csisolatin5", "csisolatin6",
    "csisolatinarabic", "csisolatincyrillic", "csisolatingreek", "csisolatinhebrew", "cskoi8r",
    "cspc775baltic", "cspc850multilingual", "cspc862latinhebrew", "cspc8codepage437", "cspcp852",
    "csptcp154", "csshiftjis", "cyrillic", "cyrillic_asian", "ecma_114", "ecma_118", "elot_928",
    "euc_cn", "euc_jis2004", "euc_jis_2004", "euc_jisx0213", "euc_jp", "euc_kr", "euccn",
    "eucgb2312_cn", "eucjis2004", "eucjisx0213", "eucjp", "euckr", "gb18030", "gb18030_2000",
    "gb2312", "gb2312_1980", "gb2312_80", "gbk", "greek", "greek8", "hebrew", "hkscs", "hp_roman8",
    "ibm1051", "ibm1125", "ibm367", "ibm437", "ibm775", "ibm819", "ibm850", "ibm852", "ibm855",
    "ibm857", "ibm858", "ibm860", "ibm861", "ibm862", "ibm863", "ibm865", "ibm866", "ibm869",
    "iso2022_jp", "iso2022_jp_1", "iso2022_jp_2", "iso2022_jp_2004", "iso2022_jp_3",
    "iso2022_jp_ext", "iso2022jp", "iso2022jp_1", "iso2022jp_2", "iso2022jp_2004", "iso2022jp_3",
    "iso2022jp_ext", "iso646_us", "iso8859", "iso8859_1", "iso8859_10", "iso8859_11", "iso8859_13",
    "iso8859_14", "iso8859_15", "iso8859_16", "iso8859_2", "iso8859_3", "iso8859_4", "iso8859_5",
    "iso8859_6", "iso8859_7", "iso8859_8", "iso8859_9", "iso_2022_jp", "iso_2022_jp_1",
    "iso_2022_jp_2", "iso_2022_jp_2004", "iso_2022_jp_3", "iso_2022_jp_ext", "iso_646_irv_1991",
    "iso_8859_1", "iso_8859_10", "iso_8859_10_1992", "iso_8859_11", "iso_8859_11_2001",
    "iso_8859_13", "iso_8859_14", "iso_8859_14_1998", "iso_8859_15", "iso_8859_16",
    "iso_8859_16_2001", "iso_8859_1_1987", "iso_8859_2", "iso_8859_2_1987", "iso_8859_3",
    "iso_8859_3_1988", "iso_8859_4", "iso_8859_4_1988", "iso_8859_5", "iso_8859_5_1988",
    "iso_8859_6", "iso_8859_6_1987", "iso_8859_7", "iso_8859_7_1987", "iso_8859_8",
    "iso_8859_8_1988", "iso_8859_9", "iso_8859_9_1989", "iso_celtic", "iso_ir_100", "iso_ir_101",
    "iso_ir_109", "iso_ir_110", "iso_ir_126", "iso_ir_127", "iso_ir_138", "iso_ir_144",
    "iso_ir_148", "iso_ir_157", "iso_ir_166", "iso_ir_199", "iso_ir_226", "iso_ir_58", "iso_ir_6",
    "jisx0213", "johab", "koi8_r", "koi8_t", "koi8_u", "korean", "ks_c_5601", "ks_c_5601_1987",
    "ks_x_1001", "ksc5601", "ksx1001", "kz1048", "kz_1048", "l1", "l10", "l2", "l3", "l4", "l5",
    "l6", "l7", "l8", "l9", "latin", "latin1", "latin10", "latin2", "latin3", "latin4", "latin5",
    "latin6", "latin7", "latin8", "latin9", "latin_1", "mac_arabic", "mac_centeuro",
    "mac_croatian", "mac_cyrillic", "mac_farsi", "mac_greek", "mac_iceland", "mac_latin2",
    "mac_roman", "mac_romanian", "mac_turkish", "maccentraleurope", "maccyrillic", "macgreek",
    "maciceland", "macintosh", "maclatin2", "macroman", "macturkish", "ms1361", "ms932", "ms936",
    "ms949", "ms950", "ms_kanji", "mskanji", "palmos", "pt154", "ptcp154", "r8", "rk1048",
    "roman8", "ruscii", "s_jis", "shift_jis", "shiftjis", "sjis", "strk1048_2002", "thai",
    "tis620", "tis_620", "tis_620_0", "tis_620_2529_0", "tis_620_2529_1", "u_jis", "uhc", "ujis",
    "us", "us_ascii", "windows_1250", "windows_1251", "windows_1252", "windows_1253",
    "windows_1254", "windows_1255", "windows_1256", "windows_1257", "windows_1258",
    "x_mac_japanese", "x_mac_korean", "x_mac_simp_chinese", "x_mac_trad_chinese"]

def simplified (separated : Bool) : List Char → List Char
  | [] => []
  | c :: rest =>
    if c.isAlphanum then (if separated then ['_'] else []) ++ c.toLower :: simplified false rest
    else simplified true rest

def isNameChar (c : Char) : Bool := c.isAlphanum || c = '-' || c = '_' || c = '.'

def isSpace (c : Char) : Bool := c = ' ' || c = '\t'

def nameHere? (cs : List Char) : Option (List Char) :=
  match cut? "coding".toList cs with
  | some ([], sign :: rest) =>
    let name := (rest.dropWhile isSpace).takeWhile isNameChar
    if (sign = ':' || sign = '=') && name ≠ [] then some name else none
  | _ => none

def note? (line : List Char) : Option (List Char) :=
  match line.dropWhile fun c => isSpace c || c = '\x0c' with
  | '#' :: note => some note
  | _ => none

def firstName? : List Char → Option (List Char)
  | [] => none
  | c :: rest => (nameHere? (c :: rest)).or (firstName? rest)

def named? (line : List Char) : Option (List Char) := (note? line).bind firstName?

def isBlankLine (line : List Char) : Bool :=
  (line.dropWhile fun c => isSpace c || c = '\x0c').head?.all fun c => c = '#' || c = '\r'

def ofText? (cs : List Char) : Option (List Char) :=
  let first := cs.takeWhile (· ≠ '\n')
  let second := ((cs.dropWhile (· ≠ '\n')).drop 1).takeWhile (· ≠ '\n')
  (named? first).or (if isBlankLine first then named? second else none)

/-- Whether a text can be read in a set. What follows a dash after the names of two sets is a
variant of theirs. -/
def reads (name cs : List Char) : Bool :=
  let plain := String.ofList (simplified false (name.dropWhile (!·.isAlphanum)))
  let isVariant (of : String) := plain = of || plain.startsWith (of ++ "_")
  unicodeNames.contains plain || isVariant "utf_8" ||
    (cs.all (·.toNat < 0x80) && (asciiNames.contains plain || isVariant "latin_1" ||
      isVariant "iso_8859_1" || isVariant "iso_latin_1"))

def isReadable (cs : List Char) : Bool := (ofText? cs).all (reads · cs)

end WindSymbols.Text.Charset
