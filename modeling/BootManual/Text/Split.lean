import BootManual.Text.Trim

/-!
# Cutting texts apart and joining them

A text is cut at the first character of a class, at its first white space, or at
every occurrence of one separator.  Joining with the same separator undoes the
last of these.
-/

namespace BootManual.Text

/-- What stands before and after the first character that passes the test, if
there is one.  The character itself is dropped. -/
def cutAt? (test : Char → Bool) (text : Text) : Option (Text × Text) :=
  match text.dropWhile (fun letter => !test letter) with
  | [] => none
  | _ :: after => some (text.takeWhile (fun letter => !test letter), after)

/-- The text up to its first white space, and the trimmed text behind it.  A text
without white space is all token. -/
def cutToken (text : Text) : Text × Text :=
  match cutAt? isBlank text with
  | some (token, rest) => (token, trim rest)
  | none => (text, [])

/-- The pieces between the occurrences of a separator.  There is always one more
piece than there are separators. -/
def pieces (separator : Char) (text : Text) : List Text :=
  text.splitOn separator

/-- The parts in order, with the separator between neighbours. -/
def join (separator : Text) (parts : List Text) : Text :=
  separator.intercalate parts

/-- Whether the text starts with this opening. -/
def startsWith (opening text : Text) : Bool :=
  opening.isPrefixOf text

/-- Whether the last character of the text is this one. -/
def endsWith (letter : Char) (text : Text) : Bool :=
  text.getLast? == some letter

/-- The text behind an opening, if the text starts with it. -/
def after? (opening text : Text) : Option Text :=
  opening.isPrefixOf? text

/-- Joining the pieces of a text with the separator gives the text back. -/
theorem join_pieces (separator : Char) (text : Text) :
    join [separator] (pieces separator text) = text :=
  List.intercalate_splitOn separator

end BootManual.Text
