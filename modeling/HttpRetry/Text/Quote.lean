import HttpRetry.Text.Printable
import HttpRetry.Text.Utf8

/-!
Double-quoted text, as error messages show a value the caller supplied: printable characters as
they are, quotes and backslashes escaped, other characters as one-letter, `\x`, `\u` or `\U`
escapes, and bytes that start no UTF-8 sequence as `\x`.
-/

namespace HttpRetry.Text

/-- The digits of `n` in lowercase hexadecimal, padded with zeros to `width` digits. -/
def hexPadded (width n : Nat) : String :=
  let ds := Nat.toDigits 16 n
  String.ofList (List.replicate (width - ds.length) '0' ++ ds)

/-- The escape for a character that is not printable. -/
def escapeUnprintable (c : Char) : String :=
  match c with
  | '\x07' => "\\a"
  | '\x08' => "\\b"
  | '\x0c' => "\\f"
  | '\n' => "\\n"
  | '\r' => "\\r"
  | '\t' => "\\t"
  | '\x0b' => "\\v"
  | _ =>
    if c.toNat < 0x20 || c.toNat == 0x7F then "\\x" ++ hexPadded 2 c.toNat
    else if c.toNat < 0x10000 then "\\u" ++ hexPadded 4 c.toNat
    else "\\U" ++ hexPadded 8 c.toNat

/-- How one character is written between quotes. -/
def quoteChar (c : Char) : String :=
  if c == '"' then "\\\""
  else if c == '\\' then "\\\\"
  else if isPrintable c then c.toString
  else escapeUnprintable c

/-- The text between double quotes, each character written as `quoteChar` says. -/
def quote (s : String) : String :=
  "\"" ++ String.join (s.toList.map quoteChar) ++ "\""

/-- The bytes written between quotes, without the quotes. -/
def quoteBytesInner : List UInt8 → String
  | [] => ""
  | b0 :: rest =>
    match utf8Sequence b0 rest with
    | some (c, k) => quoteChar c ++ quoteBytesInner (rest.drop k)
    | none => "\\x" ++ hexPadded 2 b0.toNat ++ quoteBytesInner rest
termination_by bs => bs.length
decreasing_by all_goals simp only [List.length_drop, List.length_cons]; omega

/-- Bytes between double quotes, read as UTF-8 where they are well formed. -/
def quoteBytes (bs : List UInt8) : String := "\"" ++ quoteBytesInner bs ++ "\""

end HttpRetry.Text
