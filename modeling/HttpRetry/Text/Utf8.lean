/-!
UTF-8 byte sequences.

A well-formed sequence is one to four bytes: a lead byte, then continuation bytes, with no
overlong form, no surrogate and nothing past U+10FFFF. Where bytes are read as text, each byte
that does not start a well-formed sequence stands for itself alone and reads as U+FFFD.
-/

namespace HttpRetry.Text

/-- A continuation byte of a UTF-8 sequence. -/
def isContinuation (c : UInt8) : Bool := 0x80 ≤ c && c ≤ 0xBF

/-- The low six bits of a continuation byte. -/
def payload (c : UInt8) : Nat := c.toNat % 64

/-- The character that the lead byte `b0` and the bytes after it start, with the number of bytes
after `b0` it takes. Sequences are well formed as UTF-8 requires: no overlong form, no
surrogate, nothing past U+10FFFF. -/
def utf8Sequence (b0 : UInt8) (rest : List UInt8) : Option (Char × Nat) :=
  let n := b0.toNat
  if n < 0x80 then some (Char.ofNat n, 0)
  else if 0xC2 ≤ n && n ≤ 0xDF then
    match rest with
    | c1 :: _ =>
      if isContinuation c1 then some (Char.ofNat ((n % 32) * 64 + payload c1), 1) else none
    | _ => none
  else if 0xE0 ≤ n && n ≤ 0xEF then
    let lo := if n == 0xE0 then 0xA0 else 0x80
    let hi := if n == 0xED then 0x9F else 0xBF
    match rest with
    | c1 :: c2 :: _ =>
      if lo ≤ c1.toNat && c1.toNat ≤ hi && isContinuation c2 then
        some (Char.ofNat (((n % 16) * 64 + payload c1) * 64 + payload c2), 2)
      else none
    | _ => none
  else if 0xF0 ≤ n && n ≤ 0xF4 then
    let lo := if n == 0xF0 then 0x90 else 0x80
    let hi := if n == 0xF4 then 0x8F else 0xBF
    match rest with
    | c1 :: c2 :: c3 :: _ =>
      if lo ≤ c1.toNat && c1.toNat ≤ hi && isContinuation c2 && isContinuation c3 then
        some (Char.ofNat ((((n % 8) * 64 + payload c1) * 64 + payload c2) * 64 + payload c3), 3)
      else none
    | _ => none
  else none

/-- Bytes read as text, each byte that does not start a well-formed sequence giving U+FFFD. -/
def decodeLossy : List UInt8 → String
  | [] => ""
  | b0 :: rest =>
    match utf8Sequence b0 rest with
    | some (c, k) => c.toString ++ decodeLossy (rest.drop k)
    | none => "\uFFFD" ++ decodeLossy rest
termination_by bs => bs.length
decreasing_by all_goals simp only [List.length_drop, List.length_cons]; omega

end HttpRetry.Text
