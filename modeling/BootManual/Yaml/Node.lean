import BootManual.Text.Utf8
import BootManual.Yaml.Scalar

/-!
# YAML trees

A tree is a text, a sequence of texts, or a mapping from texts to trees.  It is
written in block style with an indentation of two columns.  A key that has a line
end or is very long stands behind a question mark, on lines of its own, and its
value behind a colon on the next line.
-/

namespace BootManual.Yaml

/-- A YAML tree.  The pairs of a mapping have an order. -/
inductive Node where
  | scalar (text : Text)
  | sequence (items : List Text)
  | mapping (pairs : List (Text × Node))
  deriving Repr

namespace Node

/-- The pairs of a mapping with a value put under a key: in place of the value that
the key has, or else behind all other pairs. -/
def insertPair (key : Text) (value : Node) : List (Text × Node) → List (Text × Node)
  | [] => [(key, value)]
  | known :: rest =>
    if known.1 = key then (key, value) :: rest else known :: insertPair key value rest

/-- The longest key, in bytes, that can stand in front of its colon. -/
def longestSimpleKey : Nat :=
  128

/-- Whether a key can stand in front of its colon on one line. -/
def isSimpleKey (key : Text) : Bool :=
  !key.any Scalar.isBreak && Utf8.size key ≤ longestSimpleKey

/-- The items of a sequence behind dashes in a column. -/
def writeItems (column : Nat) (items : List Text) : Text :=
  items.flatMap fun item => Text.margin column ++ '-' :: ' ' :: Scalar.write (column + 2) item

mutual

/-- A node as the value of a key in a column, from behind the colon.  The items of a
sequence stand in the column of the key. -/
def writeValue (column : Nat) : Node → Text
  | scalar text => ' ' :: Scalar.write (column + 2) text
  | sequence [] => " []\n".toList
  | sequence items => '\n' :: writeItems column items
  | mapping [] => " \x7b\x7d\n".toList
  | mapping pairs => '\n' :: writePairs (column + 2) pairs

/-- A node as the value of a key that stands behind a question mark, from behind the
colon in the same column.  Nested lines begin on the line of the colon. -/
def writeOwnLine (column : Nat) : Node → Text
  | scalar text => ' ' :: Scalar.write (column + 2) text
  | sequence [] => " []\n".toList
  | sequence items => ' ' :: (writeItems (column + 2) items).drop (column + 2)
  | mapping [] => " \x7b\x7d\n".toList
  | mapping pairs => ' ' :: (writePairs (column + 2) pairs).drop (column + 2)

/-- The pairs of a mapping whose keys stand in a column. -/
def writePairs (column : Nat) : List (Text × Node) → Text
  | [] => []
  | (key, value) :: rest =>
    let margin := Text.margin column
    let written := Scalar.write (column + 2) key
    (if isSimpleKey key then
      margin ++ written.dropLast ++ ':' :: writeValue column value
    else
      margin ++ '?' :: ' ' :: written ++ margin ++ ':' :: writeOwnLine column value) ++
      writePairs column rest

end

/-- A node as a whole YAML document. -/
def render : Node → Text
  | scalar text => Scalar.write 2 text
  | sequence [] => "[]\n".toList
  | sequence items => writeItems 0 items
  | mapping [] => "\x7b\x7d\n".toList
  | mapping pairs => writePairs 0 pairs

end Node

end BootManual.Yaml
