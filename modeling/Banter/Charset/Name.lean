import Banter.Charset.Charset
import Banter.Charset.Page.Cp1250
import Banter.Charset.Page.Cp437
import Banter.Charset.Page.Desktop
import Banter.Charset.Page.Ebcdic
import Banter.Charset.Page.Iso8859
import Banter.Charset.Page.Koi8

/-!
The names of character sets. Each has names of its own and further ones, and only in the further
ones may full stops take the place of underscores.
-/
namespace Banter.Charset

/-- A character set with its names, with blanks between them. -/
structure Entry where
  charset : Charset
  own : String
  further : String

def unicodeNames : List Entry :=
  [⟨.utf8, "utf_8", "cp65001 u8 utf utf8 utf8_ucs2 utf8_ucs4"⟩,
   ⟨.utf8Marked, "utf_8_sig", ""⟩,
   ⟨.utf16 none, "utf_16", "u16 utf16"⟩,
   ⟨.utf16 (some .big), "utf_16_be", "unicodebigunmarked utf_16be"⟩,
   ⟨.utf16 (some .little), "utf_16_le", "unicodelittleunmarked utf_16le"⟩,
   ⟨.utf32 none, "utf_32", "u32 utf32"⟩,
   ⟨.utf32 (some .big), "utf_32_be", "utf_32be"⟩,
   ⟨.utf32 (some .little), "utf_32_le", "utf_32le"⟩,
   ⟨.utf7, "utf_7", "u7 unicode_1_1_utf_7 utf7"⟩,
   ⟨.pieces nextSpelled, "unicode_escape", ""⟩,
   ⟨.pieces nextNumbered, "raw_unicode_escape", ""⟩,
   ⟨.punycode, "punycode", ""⟩]

def isoNames : List Entry :=
  [⟨.page Page.ascii, "ascii", "646 ansi_x3.4_1968 ansi_x3.4_1986 ansi_x3_4_1968 cp367 " ++
      "csascii ibm367 iso646_us iso_646.irv_1991 iso_ir_6 us us_ascii"⟩,
   ⟨.page Page.latin1, "iso8859_1 latin_1 charmap", "8859 cp819 csisolatin1 ibm819 iso8859 " ++
      "iso8859_1 iso_8859_1 iso_8859_1_1987 iso_ir_100 l1 latin latin1"⟩,
   ⟨.page Page.isoPart2, "iso8859_2", "csisolatin2 iso_8859_2 iso_8859_2_1987 iso_ir_101 l2 " ++
      "latin2"⟩,
   ⟨.page Page.isoPart3, "iso8859_3", "csisolatin3 iso_8859_3 iso_8859_3_1988 iso_ir_109 l3 " ++
      "latin3"⟩,
   ⟨.page Page.isoPart4, "iso8859_4", "csisolatin4 iso_8859_4 iso_8859_4_1988 iso_ir_110 l4 " ++
      "latin4"⟩,
   ⟨.page Page.isoPart5, "iso8859_5", "csisolatincyrillic cyrillic iso_8859_5 " ++
      "iso_8859_5_1988 iso_ir_144"⟩,
   ⟨.page Page.isoPart6, "iso8859_6", "arabic asmo_708 csisolatinarabic ecma_114 iso_8859_6 " ++
      "iso_8859_6_1987 iso_ir_127"⟩,
   ⟨.page Page.isoPart7, "iso8859_7", "csisolatingreek ecma_118 elot_928 greek greek8 " ++
      "iso_8859_7 iso_8859_7_1987 iso_ir_126"⟩,
   ⟨.page Page.isoPart8, "iso8859_8", "csisolatinhebrew hebrew iso_8859_8 iso_8859_8_1988 " ++
      "iso_ir_138"⟩,
   ⟨.page Page.isoPart9, "iso8859_9", "csisolatin5 iso_8859_9 iso_8859_9_1989 iso_ir_148 l5 " ++
      "latin5"⟩,
   ⟨.page Page.isoPart10, "iso8859_10", "csisolatin6 iso_8859_10 iso_8859_10_1992 " ++
      "iso_ir_157 l6 latin6"⟩,
   ⟨.page Page.isoPart11, "iso8859_11", "iso_8859_11 iso_8859_11_2001 thai"⟩,
   ⟨.page Page.isoPart13, "iso8859_13", "iso_8859_13 l7 latin7"⟩,
   ⟨.page Page.isoPart14, "iso8859_14", "iso_8859_14 iso_8859_14_1998 iso_celtic iso_ir_199 " ++
      "l8 latin8"⟩,
   ⟨.page Page.isoPart15, "iso8859_15", "iso_8859_15 l9 latin9"⟩,
   ⟨.page Page.isoPart16, "iso8859_16", "iso_8859_16 iso_8859_16_2001 iso_ir_226 l10 " ++
      "latin10"⟩,
   ⟨.page Page.tis620, "tis_620", "iso_ir_166 tis620 tis_620_0 tis_620_2529_0 " ++
      "tis_620_2529_1"⟩]

def codePageNames : List Entry :=
  [⟨.page Page.cp037, "cp037", "037 csibm037 ebcdic_cp_ca ebcdic_cp_nl ebcdic_cp_us " ++
      "ebcdic_cp_wt ibm037 ibm039"⟩,
   ⟨.page Page.cp273, "cp273", "273 csibm273 ibm273"⟩,
   ⟨.page Page.cp424, "cp424", "424 csibm424 ebcdic_cp_he ibm424"⟩,
   ⟨.page Page.cp437, "cp437", "437 cspc8codepage437 ibm437"⟩,
   ⟨.page Page.cp500, "cp500", "500 csibm500 ebcdic_cp_be ebcdic_cp_ch ibm500"⟩,
   ⟨.page Page.cp720, "cp720", ""⟩,
   ⟨.page Page.cp737, "cp737", ""⟩,
   ⟨.page Page.cp775, "cp775", "775 cspc775baltic ibm775"⟩,
   ⟨.page Page.cp850, "cp850", "850 cspc850multilingual ibm850"⟩,
   ⟨.page Page.cp852, "cp852", "852 cspcp852 ibm852"⟩,
   ⟨.page Page.cp855, "cp855", "855 csibm855 ibm855"⟩,
   ⟨.page Page.cp856, "cp856", ""⟩,
   ⟨.page Page.cp857, "cp857", "857 csibm857 ibm857"⟩,
   ⟨.page Page.cp858, "cp858", "858 csibm858 ibm858"⟩,
   ⟨.page Page.cp860, "cp860", "860 csibm860 ibm860"⟩,
   ⟨.page Page.cp861, "cp861", "861 cp_is csibm861 ibm861"⟩,
   ⟨.page Page.cp862, "cp862", "862 cspc862latinhebrew ibm862"⟩,
   ⟨.page Page.cp863, "cp863", "863 csibm863 ibm863"⟩,
   ⟨.page Page.cp864, "cp864", "864 csibm864 ibm864"⟩,
   ⟨.page Page.cp865, "cp865", "865 csibm865 ibm865"⟩,
   ⟨.page Page.cp866, "cp866", "866 csibm866 ibm866"⟩,
   ⟨.page Page.cp869, "cp869", "869 cp_gr csibm869 ibm869"⟩,
   ⟨.page Page.cp874, "cp874", ""⟩,
   ⟨.page Page.cp875, "cp875", ""⟩,
   ⟨.page Page.cp1006, "cp1006", ""⟩,
   ⟨.page Page.cp1026, "cp1026", "1026 csibm1026 ibm1026"⟩,
   ⟨.page Page.cp1125, "cp1125", "1125 cp866u ibm1125 ruscii"⟩,
   ⟨.page Page.cp1140, "cp1140", "1140 ibm1140"⟩,
   ⟨.page Page.cp1250, "cp1250", "1250 windows_1250"⟩,
   ⟨.page Page.cp1251, "cp1251", "1251 windows_1251"⟩,
   ⟨.page Page.cp1252, "cp1252", "1252 windows_1252"⟩,
   ⟨.page Page.cp1253, "cp1253", "1253 windows_1253"⟩,
   ⟨.page Page.cp1254, "cp1254", "1254 windows_1254"⟩,
   ⟨.page Page.cp1255, "cp1255", "1255 windows_1255"⟩,
   ⟨.page Page.cp1256, "cp1256", "1256 windows_1256"⟩,
   ⟨.page Page.cp1257, "cp1257", "1257 windows_1257"⟩,
   ⟨.page Page.cp1258, "cp1258", "1258 windows_1258"⟩]

def otherPageNames : List Entry :=
  [⟨.page Page.koi8R, "koi8_r", "cskoi8r"⟩,
   ⟨.page Page.koi8T, "koi8_t", ""⟩,
   ⟨.page Page.koi8U, "koi8_u", ""⟩,
   ⟨.page Page.kz1048, "kz1048", "kz_1048 rk1048 strk1048_2002"⟩,
   ⟨.page Page.ptcp154, "ptcp154", "cp154 csptcp154 cyrillic_asian pt154"⟩,
   ⟨.page Page.macArabic, "mac_arabic", ""⟩,
   ⟨.page Page.macCroatian, "mac_croatian", ""⟩,
   ⟨.page Page.macCyrillic, "mac_cyrillic", "maccyrillic"⟩,
   ⟨.page Page.macFarsi, "mac_farsi", ""⟩,
   ⟨.page Page.macGreek, "mac_greek", "macgreek"⟩,
   ⟨.page Page.macIceland, "mac_iceland", "maciceland"⟩,
   ⟨.page Page.macLatin2, "mac_latin2", "mac_centeuro maccentraleurope maclatin2"⟩,
   ⟨.page Page.macRoman, "mac_roman", "macintosh macroman"⟩,
   ⟨.page Page.macRomanian, "mac_romanian", ""⟩,
   ⟨.page Page.macTurkish, "mac_turkish", "macturkish"⟩,
   ⟨.page Page.palm, "palmos", ""⟩,
   ⟨.page Page.hpRoman8, "hp_roman8", "cp1051 ibm1051 r8 roman8"⟩]

def easternNames : List Entry :=
  [⟨.pieces nextShiftJis, "shift_jis", "csshiftjis s_jis shiftjis sjis x_mac_japanese"⟩,
   ⟨.pieces (nextShiftJisX0213 .first), "shift_jisx0213", "s_jisx0213 shiftjisx0213 " ++
      "sjisx0213"⟩,
   ⟨.pieces (nextShiftJisX0213 .second), "shift_jis_2004", "s_jis_2004 shiftjis2004 " ++
      "sjis_2004"⟩,
   ⟨.pieces nextCp932, "cp932", "932 ms932 ms_kanji mskanji"⟩,
   ⟨.pieces nextEucJp, "euc_jp", "eucjp u_jis ujis"⟩,
   ⟨.pieces (nextEucJisX0213 .first), "euc_jisx0213", "eucjisx0213"⟩,
   ⟨.pieces (nextEucJisX0213 .second), "euc_jis_2004", "euc_jis2004 eucjis2004 jisx0213"⟩,
   ⟨.iso2022 Iso2022.japanese, "iso2022_jp", "csiso2022jp iso2022jp iso_2022_jp"⟩,
   ⟨.iso2022 Iso2022.japanese1, "iso2022_jp_1", "iso2022jp_1 iso_2022_jp_1"⟩,
   ⟨.iso2022 Iso2022.japanese2, "iso2022_jp_2", "iso2022jp_2 iso_2022_jp_2"⟩,
   ⟨.iso2022 Iso2022.japanese3, "iso2022_jp_3", "iso2022jp_3 iso_2022_jp_3"⟩,
   ⟨.iso2022 Iso2022.japanese2004, "iso2022_jp_2004", "iso2022jp_2004 iso_2022_jp_2004"⟩,
   ⟨.iso2022 Iso2022.japaneseExtended, "iso2022_jp_ext", "iso2022jp_ext iso_2022_jp_ext"⟩,
   ⟨.pieces (nextPair gb2312Pair), "gb2312", "chinese csiso58gb231280 euc_cn euccn " ++
      "eucgb2312_cn gb2312_1980 gb2312_80 iso_ir_58 x_mac_simp_chinese"⟩,
   ⟨.pieces (nextPair gbkPair), "gbk", "936 cp936 ms936"⟩,
   ⟨.pieces nextGb18030, "gb18030", "gb18030_2000"⟩,
   ⟨.hz, "hz", "hz_gb hz_gb_2312 hzgb"⟩,
   ⟨.pieces (nextPair big5Pair), "big5", "big5_tw csbig5 x_mac_trad_chinese"⟩,
   ⟨.pieces (nextPair cp950Pair), "cp950", "950 ms950"⟩,
   ⟨.pieces (nextPair hongKongPair), "big5hkscs", "big5_hkscs hkscs"⟩,
   ⟨.pieces nextEucKr, "euc_kr", "euckr korean ks_c_5601 ks_c_5601_1987 ks_x_1001 ksc5601 " ++
      "ksx1001 x_mac_korean"⟩,
   ⟨.pieces (nextPair cp949Pair), "cp949", "949 ms949 uhc"⟩,
   ⟨.pieces (nextPair johabPair), "johab", "cp1361 ms1361"⟩,
   ⟨.iso2022 Iso2022.korean, "iso2022_kr", "csiso2022kr iso2022kr iso_2022_kr"⟩]

/-- Names that are known, but stand for no character set that a text could be read by. -/
def unusableNames : List Entry :=
  [⟨.unusable .notText, "base64_codec bz2_codec hex_codec quopri_codec uu_codec zlib_codec",
    "base64 base_64 bz2 hex quopri quoted_printable quotedprintable uu zip zlib"⟩,
   ⟨.unusable .lettersOnly, "rot_13", "rot13"⟩,
   ⟨.unusable .noCharacters, "undefined", ""⟩,
   ⟨.unusable .strictOnly, "idna", ""⟩]

def names : List Entry :=
  unicodeNames ++ isoNames ++ codePageNames ++ otherPageNames ++ easternNames ++ unusableNames

def inName (c : Char) : Bool :=
  c.isAlphanum || c == '.'

/-- Letters, digits and full stops. Other characters in a row count as one underscore between
them. -/
def normalName (name : List Char) : List Char :=
  ['_'].intercalate (((name.splitOnP (!inName ·)).filter (!·.isEmpty)).map
    (·.map Char.toLower))

def isAmong (name : List Char) (all : String) : Bool :=
  (all.toList.splitOn ' ').contains name

def ofName? (name : List Char) : Option Charset :=
  let name := normalName name
  if name.isEmpty then none
  else
    let plain := name.map fun c => if c = '.' then '_' else c
    (names.find? fun e =>
      isAmong name e.own || isAmong name e.further || isAmong plain e.further).map Entry.charset

end Banter.Charset
