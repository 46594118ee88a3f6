import GraphServe.Text.Charset.Page

/-!
# Names of encodings

An encoding goes by many names, in letters of either case and with blanks around them.  Some names
of other encodings stand for one of these.

* `Charset` is an encoding.
* `Charset.ofLabel` is the encoding that goes by a name.
-/

namespace GraphServe.Text

/-- How bytes stand for characters. -/
inductive Charset where
  | utf8
  /-- Two bytes make a unit, the higher one first or last. -/
  | utf16 (higherFirst : Bool)
  /-- A byte is a character. -/
  | page (p : Charset.Page)
  | gb18030
  | big5
  | eucKr
  | eucJp
  | shiftJis
  | iso2022Jp
  /-- The bytes from 128 are characters of private use. -/
  | userDefined
  /-- An encoding that is not read. -/
  | unread
deriving DecidableEq, Repr, Inhabited

namespace Charset

/-- The names of the code pages. -/
def pageLabels : List (Page × List String) :=
  [(.ibm866, ["866", "cp866", "csibm866", "ibm866"]),
   (.latin2, ["csisolatin2", "iso-8859-2", "iso-ir-101", "iso8859-2", "iso88592", "iso_8859-2",
     "iso_8859-2:1987", "l2", "latin2"]),
   (.latin3, ["csisolatin3", "iso-8859-3", "iso-ir-109", "iso8859-3", "iso88593", "iso_8859-3",
     "iso_8859-3:1988", "l3", "latin3"]),
   (.latin4, ["csisolatin4", "iso-8859-4", "iso-ir-110", "iso8859-4", "iso88594", "iso_8859-4",
     "iso_8859-4:1988", "l4", "latin4"]),
   (.cyrillic, ["csisolatincyrillic", "cyrillic", "iso-8859-5", "iso-ir-144", "iso8859-5",
     "iso88595", "iso_8859-5", "iso_8859-5:1988"]),
   (.arabic, ["arabic", "asmo-708", "csiso88596e", "csiso88596i", "csisolatinarabic", "ecma-114",
     "iso-8859-6", "iso-8859-6-e", "iso-8859-6-i", "iso-ir-127", "iso8859-6", "iso88596",
     "iso_8859-6", "iso_8859-6:1987"]),
   (.greek, ["csisolatingreek", "ecma-118", "elot_928", "greek", "greek8", "iso-8859-7",
     "iso-ir-126", "iso8859-7", "iso88597", "iso_8859-7", "iso_8859-7:1987", "sun_eu_greek"]),
   (.hebrew, ["csiso88598e", "csisolatinhebrew", "hebrew", "iso-8859-8", "iso-8859-8-e",
     "iso-ir-138", "iso8859-8", "iso88598", "iso_8859-8", "iso_8859-8:1988", "visual",
     "csiso88598i", "iso-8859-8-i", "logical"]),
   (.latin6, ["csisolatin6", "iso-8859-10", "iso-ir-157", "iso8859-10", "iso885910", "l6",
     "latin6"]),
   (.latin7, ["iso-8859-13", "iso8859-13", "iso885913"]),
   (.latin8, ["iso-8859-14", "iso8859-14", "iso885914"]),
   (.latin9, ["csisolatin9", "iso-8859-15", "iso8859-15", "iso885915", "iso_8859-15", "l9"]),
   (.latin10, ["iso-8859-16"]),
   (.koi8r, ["cskoi8r", "koi", "koi8", "koi8-r", "koi8_r"]),
   (.koi8u, ["koi8-ru", "koi8-u"]),
   (.macRoman, ["csmacintosh", "mac", "macintosh", "x-mac-roman"]),
   (.macCyrillic, ["x-mac-cyrillic", "x-mac-ukrainian"]),
   (.windows874, ["dos-874", "iso-8859-11", "iso8859-11", "iso885911", "tis-620", "windows-874"]),
   (.windows1250, ["cp1250", "windows-1250", "x-cp1250"]),
   (.windows1251, ["cp1251", "windows-1251", "x-cp1251"]),
   (.windows1252, ["ansi_x3.4-1968", "ascii", "cp1252", "cp819", "csisolatin1", "ibm819",
     "iso-8859-1", "iso-ir-100", "iso8859-1", "iso88591", "iso_8859-1", "iso_8859-1:1987", "l1",
     "latin1", "us-ascii", "windows-1252", "x-cp1252"]),
   (.windows1253, ["cp1253", "windows-1253", "x-cp1253"]),
   (.windows1254, ["cp1254", "csisolatin5", "iso-8859-9", "iso-ir-148", "iso8859-9", "iso88599",
     "iso_8859-9", "iso_8859-9:1989", "l5", "latin5", "windows-1254", "x-cp1254"]),
   (.windows1255, ["cp1255", "windows-1255", "x-cp1255"]),
   (.windows1256, ["cp1256", "windows-1256", "x-cp1256"]),
   (.windows1257, ["cp1257", "windows-1257", "x-cp1257"]),
   (.windows1258, ["cp1258", "windows-1258", "x-cp1258"])]

/-- The names of the encodings other than code pages. -/
def otherLabels : List (Charset × List String) :=
  [(utf16 false, ["csunicode", "iso-10646-ucs-2", "ucs-2", "unicode", "unicodefeff", "utf-16",
     "utf-16le"]),
   (utf16 true, ["unicodefffe", "utf-16be"]),
   (gb18030, ["gb18030", "chinese", "csgb2312", "csiso58gb231280", "gb2312", "gb_2312",
     "gb_2312-80", "gbk", "iso-ir-58", "x-gbk"]),
   (big5, ["big5", "big5-hkscs", "cn-big5", "csbig5", "x-x-big5"]),
   (eucKr, ["cseuckr", "csksc56011987", "euc-kr", "iso-ir-149", "korean", "ks_c_5601-1987",
     "ks_c_5601-1989", "ksc5601", "ksc_5601", "windows-949"]),
   (eucJp, ["cseucpkdfmtjapanese", "euc-jp", "x-euc-jp"]),
   (shiftJis, ["csshiftjis", "ms932", "ms_kanji", "shift-jis", "shift_jis", "sjis", "windows-31j",
     "x-sjis"]),
   (iso2022Jp, ["csiso2022jp", "iso-2022-jp"]),
   (userDefined, ["x-user-defined"]),
   (unread, ["csiso2022kr", "hz-gb-2312", "iso-2022-cn", "iso-2022-cn-ext", "iso-2022-kr",
     "replacement"])]

/-- Whether a character may stand around the name of an encoding. -/
def isLabelBlank (c : Char) : Bool :=
  c = ' ' || c = '\t' || c = '\n' || c = '\r' || c = '\x0c'

/-- The encoding that goes by a name; it is UTF-8 for all other names. -/
def ofLabel (label : String) : Charset :=
  let trimmed := ((label.toList.dropWhile isLabelBlank).reverse.dropWhile isLabelBlank).reverse
  let name := String.ofList (trimmed.map Char.toLower)
  match pageLabels.find? (·.2.contains name) with
  | some (p, _) => page p
  | none        => ((otherLabels.find? (·.2.contains name)).map (·.1)).getD utf8

end Charset

end GraphServe.Text
