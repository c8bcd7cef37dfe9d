import HttpRetry.Fault

/-!
Request and response bodies. A body is given as text, as bytes, or as a stream; anything else is
refused. A stream is read to its end: a failure that ends the reading (other than the end of the
input itself) is the stream's failure, and a stream that can be closed is closed after reading,
which may fail too.
-/

namespace HttpRetry

/-- A stream of bytes: what it yields, the failure its reading ends with (if any), and, for a
stream that can be closed, what closing it reports. -/
structure Stream where
  content : ByteArray
  readFailure : Option Fault := none
  closing : Option (Option Fault) := none
  deriving Inhabited, BEq

/-- Where a body comes from. -/
inductive BodySource where
  | text (s : String)
  | bytes (b : ByteArray)
  | stream (s : Stream)
  /-- A value of a type that cannot be a body. -/
  | unsupported

/-- The message for a body of a type that cannot be a body. -/
def badBodyTypeText : String :=
  "retryflow/request: invalid type (for body use nil, string, []byte, io.Reader or io.ReadCloser)"

namespace Stream

/-- Everything the stream yields, or the failure that ended the reading. -/
def readAll (s : Stream) : Except Fault ByteArray :=
  match s.readFailure with
  | some .endOfInput | none => .ok s.content
  | some f => .error f

/-- Reads the stream to its end and closes it if it can be closed. -/
def drain (s : Stream) : Except Fault ByteArray := do
  let b ← s.readAll
  match s.closing with
  | some (some f) => throw f
  | _ => return b

end Stream

/-- Bytes appended to a byte slice that may be absent: appending nothing leaves the slice as it
was, absent included, and anything else gives a slice. -/
def appendBytes (s : Option ByteArray) (b : ByteArray) : Option ByteArray :=
  if b.size = 0 then s else some (s.getD ByteArray.empty ++ b)

/-- The bytes of a body; no body has no bytes. -/
def bodyBytes : Option BodySource → Except Fault (Option ByteArray)
  | none => .ok none
  | some (.text s) => .ok (some s.toUTF8)
  | some (.bytes b) => .ok (some b)
  | some (.stream s) => some <$> s.drain
  | some .unsupported => .error (.text badBodyTypeText)

end HttpRetry
