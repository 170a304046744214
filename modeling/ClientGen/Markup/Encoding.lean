import ClientGen.Text.Utf8

/-!
# Encodings of documents

The characters of a document from its bytes. A byte order mark decides for UTF-8 or UTF-16, and so
does a zero among the first two bytes; otherwise the document is taken as UTF-8 unless its
declaration names another encoding.
-/

namespace ClientGen.Markup

/-- Why some bytes are not read as a document. -/
inductive DocumentFault where
  /-- They are no XML document. -/
  | malformed
  /-- They name an encoding that is not known. -/
  | unknownEncoding
  /-- They name an encoding that takes several bytes for some characters. -/
  | wideEncoding
deriving Repr, DecidableEq

/-- How characters are written as bytes. -/
inductive Encoding where
  /-- One to four bytes for each character. -/
  | utf8
  /-- Two or four bytes for each character, the lower byte of each two first if `isLittle`. -/
  | utf16 (isLittle : Bool)
  /-- One byte for each character, up to `most`, with other code points for some bytes. -/
  | bytewise (most : Nat) (others : List (Nat × Nat))
deriving Repr, DecidableEq

namespace Encoding

/-- The code points of the bytes from 128 to 159 in the code page 1252. -/
def page1252 : List (Nat × Nat) :=
  [(0x80, 0x20ac), (0x82, 0x201a), (0x83, 0x192), (0x84, 0x201e), (0x85, 0x2026), (0x86, 0x2020),
   (0x87, 0x2021), (0x88, 0x2c6), (0x89, 0x2030), (0x8a, 0x160), (0x8b, 0x2039), (0x8c, 0x152),
   (0x8e, 0x17d), (0x91, 0x2018), (0x92, 0x2019), (0x93, 0x201c), (0x94, 0x201d), (0x95, 0x2022),
   (0x96, 0x2013), (0x97, 0x2014), (0x98, 0x2dc), (0x99, 0x2122), (0x9a, 0x161), (0x9b, 0x203a),
   (0x9c, 0x153), (0x9e, 0x17e), (0x9f, 0x178), (0x81, 0xfffe), (0x8d, 0xfffe), (0x8f, 0xfffe),
   (0x90, 0xfffe), (0x9d, 0xfffe)]

/-- The code points of the bytes in ISO 8859-15 that differ from ISO 8859-1. -/
def part15 : List (Nat × Nat) :=
  [(0xa4, 0x20ac), (0xa6, 0x160), (0xa8, 0x161), (0xb4, 0x17d), (0xb8, 0x17e), (0xbc, 0x152),
   (0xbd, 0x153), (0xbe, 0x178)]

/-- The encodings of one byte for each character, by their names in lower case with underscores.
Under a name of UTF-8 that is not the standard one a document may hold ASCII only. -/
def bytewiseNames : List (String × Encoding) :=
  let ascii := bytewise 0x7f []
  let latin := bytewise 0xff []
  let western := bytewise 0xff page1252
  let euro := bytewise 0xff part15
  [("us_ascii", ascii), ("ascii", ascii), ("646", ascii), ("utf8", ascii), ("utf_8", ascii),
   ("u8", ascii), ("utf", ascii), ("utf_8_sig", ascii), ("iso_8859_1", latin),
   ("iso8859_1", latin), ("iso8859", latin), ("latin_1", latin), ("latin1", latin),
   ("latin", latin), ("l1", latin), ("cp819", latin), ("windows_1252", western),
   ("cp1252", western), ("iso_8859_15", euro), ("iso8859_15", euro), ("latin_9", euro),
   ("latin9", euro), ("l9", euro)]

/-- The names of encodings that take several bytes for some characters. -/
def wideNames : List String :=
  ["big5", "cp932", "cp936", "cp949", "cp950", "euc_jp", "euc_kr", "gb18030", "gb2312", "gbk",
   "shift_jis", "sjis", "utf_16", "utf_16_le", "utf_16_be", "utf_32", "utf_32le", "utf_32be",
   "utf_7"]

/-- A name of an encoding with every character but letters and digits as an underscore. -/
def plainName (name : String) : String :=
  String.ofList (name.toList.map fun c => if c.isAlphanum then c.toLower else '_')

/-- The encodings that every document may name, in lower case. -/
def standardNames : List (String × Encoding) :=
  [("utf-8", utf8), ("us-ascii", bytewise 0x7f []), ("iso-8859-1", bytewise 0xff []),
   ("utf-16le", utf16 true), ("utf-16be", utf16 false)]

/-- Are the smallest characters of two encodings of one form? -/
def agrees : Encoding → Encoding → Bool
  | utf16 isLittle, other => other == utf16 isLittle
  | _, utf16 _ => false
  | _, _ => true

/-- The encoding of a document that was taken for `assumed` and names an encoding itself. -/
def named (assumed : Encoding) (name : String) : Except DocumentFault Encoding :=
  let lower := String.ofList (name.toList.map Char.toLower)
  if lower = "utf-16" then if assumed matches utf16 _ then .ok assumed else .error .malformed
  else if wideNames.contains (plainName name) && (standardNames.lookup lower).isNone then
    .error .wideEncoding
  else
    match standardNames.lookup lower <|> bytewiseNames.lookup (plainName name) with
    | some encoding => if agrees assumed encoding then .ok encoding else .error .malformed
    | none => .error .unknownEncoding

/-- The encoding that the first bytes of a document show, and the document without its mark. -/
def detect : List UInt8 → Encoding × List UInt8
  | 0xef :: 0xbb :: 0xbf :: rest => (.utf8, rest)
  | 0xff :: 0xfe :: rest => (.utf16 true, rest)
  | 0xfe :: 0xff :: rest => (.utf16 false, rest)
  | 0x00 :: low :: rest => (.utf16 false, 0x00 :: low :: rest)
  | low :: 0x00 :: rest => (.utf16 true, low :: 0x00 :: rest)
  | bytes => (.utf8, bytes)

/-- The numbers of two bytes each. -/
def units? (isLittle : Bool) : List UInt8 → Option (List Nat)
  | [] => some []
  | [_] => none
  | a :: b :: rest =>
    let unit := if isLittle then a.toNat + 256 * b.toNat else 256 * a.toNat + b.toNat
    (units? isLittle rest).map (unit :: ·)

/-- The characters of a list of numbers of two bytes each. -/
def ofUnits? : List Nat → Option (List Char)
  | [] => some []
  | unit :: rest =>
    if 0xd800 ≤ unit ∧ unit < 0xdc00 then
      match rest with
      | low :: rest =>
        if 0xdc00 ≤ low ∧ low < 0xe000 then
          (ofUnits? rest).map
            (Char.ofNat (0x10000 + (unit - 0xd800) * 0x400 + (low - 0xdc00)) :: ·)
        else none
      | [] => none
    else if 0xdc00 ≤ unit ∧ unit < 0xe000 then none
    else (ofUnits? rest).map (Char.ofNat unit :: ·)

/-- The characters of some bytes in an encoding. -/
def decode? (encoding : Encoding) (bytes : List UInt8) : Option (List Char) :=
  match encoding with
  | .utf8 => (Text.Utf8.decode bytes).mapM id
  | .utf16 isLittle => (units? isLittle bytes).bind ofUnits?
  | .bytewise most others => bytes.mapM fun byte =>
    if byte.toNat ≤ most then some (Char.ofNat ((others.lookup byte.toNat).getD byte.toNat))
    else none

end Encoding

end ClientGen.Markup
