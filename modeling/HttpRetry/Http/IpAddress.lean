import HttpRetry.Text.Quote

/-!
IP addresses in text: four decimal fields of at most 255 without leading zeros, or at most eight
groups of hex digits with one `::` and perhaps a final IPv4 part, and an optional zone after `%`.
A text that is not an address is refused with what is wrong and, where found at one place, the
rest of the text from there.
-/

namespace HttpRetry

/-- An IP address: four bytes, or sixteen bytes with a zone (empty when there is none). -/
inductive IpAddress where
  | v4 (bytes : List UInt8)
  | v6 (bytes : List UInt8) (zone : List UInt8)

/-- Why a text is not an IP address: the text, what is wrong, and the rest of the text from
where the problem was found (empty when the problem concerns the text as a whole). -/
structure AddressError where
  input : List UInt8
  problem : String
  rest : List UInt8 := []

namespace AddressError

/-- The message of a refusal: the quoted text, the problem and the quoted place. -/
def message (e : AddressError) : String :=
  "ParseAddr(" ++ Text.quoteBytes e.input ++ "): " ++ e.problem ++
    (if e.rest.isEmpty then "" else " (at " ++ Text.quoteBytes e.rest ++ ")")

end AddressError

namespace IpAddress

/-- The byte of an ASCII character. -/
def byte (c : Char) : UInt8 := c.toNat.toUInt8

/-- An ASCII decimal digit. -/
def isDigit (c : UInt8) : Bool := 48 ≤ c && c ≤ 57

/-- The value of an ASCII hex digit. -/
def hexDigit? (c : UInt8) : Option Nat :=
  if 48 ≤ c && c ≤ 57 then some (c.toNat - 48)
  else if 97 ≤ c && c ≤ 102 then some (c.toNat - 87)
  else if 65 ≤ c && c ≤ 70 then some (c.toNat - 55)
  else none

/-- The value of hex digits, the first one most significant. -/
def hexValue (ds : List UInt8) : Nat :=
  ds.foldl (fun acc d => acc * 16 + (hexDigit? d).getD 0) 0

/-- Reads dotted decimal fields from the rest `s` of the text `input`. `fields` holds the fields
read so far, `value` and `digits` the field being read; `atStart` says no byte of `s` has been
read yet and `afterDot` that the last byte read was a dot. -/
def ipv4Fields (input : List UInt8) : List UInt8 → List UInt8 → Nat → Nat → Bool → Bool →
    Except AddressError (List UInt8)
  | [], fields, value, _, _, _ =>
    if fields.length < 3 then .error ⟨input, "IPv4 address too short", []⟩
    else .ok (fields ++ [value.toUInt8])
  | c :: r, fields, value, digits, atStart, afterDot =>
    if isDigit c then
      if digits == 1 && value == 0 then
        .error ⟨input, "IPv4 field has octet with leading zero", []⟩
      else
        let value := value * 10 + (c.toNat - 48)
        if value > 255 then .error ⟨input, "IPv4 field has value >255", []⟩
        else ipv4Fields input r fields value (digits + 1) false false
    else if c == byte '.' then
      if atStart || r.isEmpty || afterDot then
        .error ⟨input, "IPv4 field must have at least one digit", c :: r⟩
      else if fields.length == 3 then .error ⟨input, "IPv4 address too long", []⟩
      else ipv4Fields input r (fields ++ [value.toUInt8]) 0 0 false true
    else .error ⟨input, "unexpected character", c :: r⟩

/-- Reads an IPv4 address that is the rest `s` of the text `input`. -/
def ipv4 (input s : List UInt8) : Except AddressError (List UInt8) :=
  ipv4Fields input s [] 0 0 true false

/-- Reads the groups of an IPv6 address from the rest `s` of the text `input`, at most `fuel`
more of them. `bytes` holds the bytes read so far and `gap` where the `::` stands among them,
if one was read. Returns the bytes, the gap and what is left of the text. -/
def groups (input : List UInt8) : Nat → List UInt8 → Option Nat → List UInt8 →
    Except AddressError (List UInt8 × Option Nat × List UInt8)
  | 0, bytes, gap, s => .ok (bytes, gap, s)
  | fuel + 1, bytes, gap, s =>
    let ds := s.takeWhile fun c => (hexDigit? c).isSome
    let after := s.drop ds.length
    if ds.length > 4 then .error ⟨input, "each group must have 4 or less digits", s⟩
    else if ds.isEmpty then
      .error ⟨input, "each colon-separated field must have at least one digit", s⟩
    else if after.head? == some (byte '.') then
      if gap.isNone && bytes.length != 12 then
        .error ⟨input, "embedded IPv4 address must replace the final 2 fields of the address", s⟩
      else if bytes.length + 4 > 16 then
        .error ⟨input,
          "too many hex fields to fit an embedded IPv4 at the end of the address", s⟩
      else do
        let v4 ← ipv4 input s
        return (bytes ++ v4, gap, [])
    else
      let v := hexValue ds
      let bytes := bytes ++ [(v / 256).toUInt8, (v % 256).toUInt8]
      match after with
      | [] => .ok (bytes, gap, [])
      | c :: r =>
        if c != byte ':' then .error ⟨input, "unexpected character, want colon", after⟩
        else if r.isEmpty then
          .error ⟨input, "colon must be followed by more characters", after⟩
        else if r.head? == some (byte ':') then
          if gap.isSome then .error ⟨input, "multiple :: in address", r⟩
          else if r.length == 1 then .ok (bytes, some bytes.length, [])
          else groups input fuel bytes (some bytes.length) (r.drop 1)
        else groups input fuel bytes gap r

/-- Reads an IPv6 address with an optional zone. -/
def ipv6 (input : List UInt8) : Except AddressError IpAddress := do
  let (s, zone) ← match input.idxOf? (byte '%') with
    | some i =>
      if i + 1 == input.length then
        throw (⟨input, "zone must be a non-empty string", []⟩ : AddressError)
      else pure (input.take i, input.drop (i + 1))
    | none => pure (input, [])
  let (start, s) := match s with
    | 58 :: 58 :: r => (some 0, r)
    | _ => (none, s)
  if start.isSome && s.isEmpty then return .v6 (List.replicate 16 0) zone
  let (bytes, gap, s) ← groups input 8 [] start s
  if !s.isEmpty then throw ⟨input, "trailing garbage after address", s⟩
  if bytes.length < 16 then
    match gap with
    | none => throw ⟨input, "address string too short", []⟩
    | some k =>
      return .v6 (bytes.take k ++ List.replicate (16 - bytes.length) 0 ++ bytes.drop k) zone
  else if gap.isSome then throw ⟨input, "the :: must expand to at least one field of zeros", s⟩
  else return .v6 bytes zone

/-- Reads an IP address: as IPv4 when a dot comes before any colon or percent sign, as IPv6 when
a colon does; a percent sign first means the address before a zone is missing. -/
def parse (input : List UInt8) : Except AddressError IpAddress :=
  match input.find? fun c => c == byte '.' || c == byte ':' || c == byte '%' with
  | some 46 => (ipv4 input input).map .v4
  | some 58 => ipv6 input
  | some _ => .error ⟨input, "missing IPv6 address", []⟩
  | none => .error ⟨input, "unable to parse IP", []⟩

/-- Whether an address is an IPv4 address. -/
def isV4 : IpAddress → Bool
  | .v4 _ => true
  | .v6 .. => false

end IpAddress

end HttpRetry
