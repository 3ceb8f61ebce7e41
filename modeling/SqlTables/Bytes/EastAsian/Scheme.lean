import SqlTables.Bytes.EastAsian.Designation

/-!
# East Asian encodings

The encodings of East Asia in one type, with their decoders.
-/

set_option autoImplicit false

namespace SqlTables.Bytes.EastAsian

/-- An encoding of Chinese, Japanese or Korean text. -/
inductive Scheme where
  /-- The traditional Chinese set. -/
  | big5
  /-- With the Hong Kong additions. -/
  | big5Hkscs
  /-- The code page of Japanese. -/
  | cp932
  /-- The Korean set with all syllables. -/
  | cp949
  /-- The code page of traditional Chinese. -/
  | cp950
  /-- The common Japanese set, with high bits set. -/
  | eucJp
  /-- An edition of the extended Japanese set, with high bits set. -/
  | eucJis (edition : Edition)
  /-- The Korean set. -/
  | eucKr
  /-- The national encoding of Chinese. -/
  | gb18030
  /-- The simplified Chinese set. -/
  | gb2312
  /-- The extended encoding of simplified Chinese. -/
  | gbk
  /-- The simplified Chinese set in seven bits. -/
  | hz
  /-- Korean syllables by their letters. -/
  | johab
  /-- The common Japanese set, shifted. -/
  | shiftJis
  /-- An edition of the extended Japanese set, shifted. -/
  | shiftJisExtended (edition : Edition)
  /-- An encoding in which escape sequences designate the sets. -/
  | designating (d : Designating)
deriving DecidableEq, Repr

namespace Scheme

/-- The decoder of an encoding. -/
def decoder : Scheme → Decoder
  | big5 => EastAsian.big5
  | big5Hkscs => EastAsian.big5Hkscs
  | cp932 => EastAsian.cp932
  | cp949 => EastAsian.cp949
  | cp950 => EastAsian.cp950
  | eucJp => EastAsian.eucJp
  | eucJis edition => EastAsian.eucJis edition
  | eucKr => EastAsian.eucKr
  | gb18030 => EastAsian.gb18030
  | gb2312 => EastAsian.gb2312
  | gbk => EastAsian.gbk
  | hz => EastAsian.hz
  | johab => EastAsian.johab
  | shiftJis => EastAsian.shiftJis
  | shiftJisExtended edition => EastAsian.shiftJisExtended edition
  | designating d => d.decoder

/-- All encodings. -/
def all : List Scheme :=
  [big5, big5Hkscs, cp932, cp949, cp950, eucJp, eucJis .first, eucJis .second, eucKr, gb18030,
    gb2312, gbk, hz, johab, shiftJis, shiftJisExtended .first, shiftJisExtended .second,
    designating .japanese, designating .japanese1, designating .japanese2,
    designating (.japaneseExtended .first), designating (.japaneseExtended .second),
    designating .japaneseKana, designating .korean]

/-- The encoding of a name. -/
def ofName? (name : String) : Option Scheme := all.find? (·.decoder.name = name)

end Scheme

end SqlTables.Bytes.EastAsian
