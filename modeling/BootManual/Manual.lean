import BootManual.Reader
import BootManual.Text.Utf8

/-!
# Reading manuals

A manual comes as a text, as its lines, or as a stream of bytes that may break
off.  A stream is cut into lines before it is decoded, so a line that is not
UTF-8 is an error only when it is reached, and a break loses the line it cuts
short.
-/

namespace BootManual

/-- The bytes that a source delivers, and the reason if it fails after them. -/
structure ByteStream where
  bytes : List UInt8
  broken : Option Text
  deriving DecidableEq, Repr

namespace ByteStream

/-- The reason why a line without a decoding cannot be read. -/
def notUtf8 : Text :=
  "stream did not contain valid UTF-8".toList

/-- A line decoded, or the reason why it cannot be. -/
def decodeLine (bytes : List UInt8) : Except Text Text :=
  match Utf8.decode bytes with
  | some line => .ok line
  | none => .error notUtf8

/-- The lines of a stream as they are delivered.  A broken stream ends in its
reason, in place of the line that it cuts short. -/
def lines (stream : ByteStream) : List (Except Text Text) :=
  match stream.broken with
  | none => (Lines.ofBytes stream.bytes).map decodeLine
  | some reason => (Lines.closedOfBytes stream.bytes).map decodeLine ++ [.error reason]

end ByteStream

namespace Reader

/-- Feed delivered lines until one fails or cannot be read. -/
def feedDelivered (reader : Reader) : List (Except Text Text) → Progress
  | [] => reader.pause
  | .error reason :: _ => ⟨reader, [], some (.unreadable reason)⟩
  | .ok line :: rest => (reader.feed line).andThen fun fed => fed.feedDelivered rest

end Reader

namespace Manual

/-- Read a manual from its lines. -/
def ofLines (context : Context) (lines : List Text) : Attempt (Catalogue Entry) :=
  ((Reader.start context).feedAll lines).conclude

/-- Read a manual from its text. -/
def ofText (context : Context) (text : Text) : Attempt (Catalogue Entry) :=
  ofLines context (Lines.ofText text)

/-- Read a manual from a stream of bytes. -/
def ofStream (context : Context) (stream : ByteStream) : Attempt (Catalogue Entry) :=
  ((Reader.start context).feedDelivered stream.lines).conclude

end Manual

end BootManual
