/-!
Base64 text (RFC 4648, standard alphabet, with padding).

Line breaks (CR and LF) anywhere in the text are passed over. What is left must be whole groups
of four characters of the alphabet, the last of which may end in `=` or `==`; padding anywhere
else, a short last group, or anything after the padding makes the text no base64 at all. Bits
that the last group holds beyond its bytes are dropped.
-/

namespace HttpRetry.Text.Base64

/-- The six bits a character of the alphabet stands for. -/
def sextet? (c : Char) : Option Nat :=
  if 'A' ≤ c && c ≤ 'Z' then some (c.toNat - 65)
  else if 'a' ≤ c && c ≤ 'z' then some (c.toNat - 71)
  else if '0' ≤ c && c ≤ '9' then some (c.toNat + 4)
  else if c == '+' then some 62
  else if c == '/' then some 63
  else none

/-- The bytes of groups of four characters, the line breaks already passed over. -/
def groups : List Char → Option (List UInt8)
  | [] => some []
  | [a, b, '=', '='] => do
    let v := (← sextet? a) * 64 + (← sextet? b)
    some [(v / 16).toUInt8]
  | [a, b, c, '='] => do
    let v := ((← sextet? a) * 64 + (← sextet? b)) * 64 + (← sextet? c)
    some [(v / 1024).toUInt8, (v / 4 % 256).toUInt8]
  | a :: b :: c :: d :: rest => do
    let v := (((← sextet? a) * 64 + (← sextet? b)) * 64 + (← sextet? c)) * 64 + (← sextet? d)
    let more ← groups rest
    some ((v / 65536).toUInt8 :: (v / 256 % 256).toUInt8 :: (v % 256).toUInt8 :: more)
  | _ => none

/-- The bytes a base64 text stands for, if it is one. -/
def decode? (s : String) : Option (List UInt8) :=
  groups (s.toList.filter fun c => c != '\n' && c != '\r')

end HttpRetry.Text.Base64
