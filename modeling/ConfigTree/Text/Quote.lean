
namespace ConfigTree

namespace Text

/-- Lower-case hexadecimal digits of `n`, without leading zeros. -/
def hexDigits (n : Nat) : String :=
  String.ofList ((Nat.toDigits 16 n).map Char.toLower)

/-- Combining marks: they attach to the character before them. -/
def isCombining (n : Nat) : Bool :=
  (0x300 ≤ n && n ≤ 0x36F) || (0x483 ≤ n && n ≤ 0x489) || (0x591 ≤ n && n ≤ 0x5BD) ||
    (0x610 ≤ n && n ≤ 0x61A) || (0x64B ≤ n && n ≤ 0x65F) || (0x1AB0 ≤ n && n ≤ 0x1AFF) ||
    (0x1DC0 ≤ n && n ≤ 0x1DFF) || n == 0x200C || n == 0x200D || (0x20D0 ≤ n && n ≤ 0x20FF) ||
    (0xFE00 ≤ n && n ≤ 0xFE0F) || (0xFE20 ≤ n && n ≤ 0xFE2F) || (0xE0100 ≤ n && n ≤ 0xE01EF)

/-- Characters that do not print: controls, separators other than the space, format characters,
private use and the non-characters at the end of the basic plane. -/
def isUnprintable (n : Nat) : Bool :=
  n < 0x20 || (0x7F ≤ n && n ≤ 0xA0) || n == 0xAD || n == 0x1680 ||
    (0x2000 ≤ n && n ≤ 0x200F) || (0x2028 ≤ n && n ≤ 0x202F) || (0x205F ≤ n && n ≤ 0x206F) ||
    n == 0x3000 || (0x600 ≤ n && n ≤ 0x605) || n == 0x61C || n == 0x6DD || n == 0x70F ||
    n == 0x180E || n == 0xFEFF || (0xFFF9 ≤ n && n ≤ 0xFFFB) || n == 0xFFFE || n == 0xFFFF ||
    (0xE000 ≤ n && n ≤ 0xF8FF) || 0xF0000 ≤ n || (0xE0000 ≤ n && n ≤ 0xE007F)

/-- One character inside a double-quoted dump. -/
def debugChar (c : Char) : String :=
  match c with
  | '\x00' => "\\0"
  | '\t' => "\\t"
  | '\r' => "\\r"
  | '\n' => "\\n"
  | '\\' => "\\\\"
  | '"' => "\\\""
  | c =>
    if isCombining c.toNat || isUnprintable c.toNat then "\\u\x7b" ++ hexDigits c.toNat ++ "\x7d"
    else String.singleton c

/-- A character between single quotes, escaped for a dump: a single quote is escaped and a double
quote is not. -/
def debugCharQuote (c : Char) : String :=
  match c with
  | '\'' => "'\\''"
  | '"' => "'\"'"
  | c => "'" ++ debugChar c ++ "'"

/-- A text between double quotes, escaped for a dump. -/
def debugQuote (s : String) : String := "\"" ++ String.join (s.toList.map debugChar) ++ "\""

end Text

end ConfigTree
