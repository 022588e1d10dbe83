import BootManual.Proofs.BareHeaders
import BootManual.Proofs.Streams
import BootManual.Proofs.TextLines

/-!
# Line ends and white space at the end of lines

A manual may be spelled in more than one way.  Its newlines may have carriage returns
in front of them, its last line may be closed or not, and white space may stand behind
its lines.  A line of nothing but tabs is the exception to the latter: white space
behind it can give it another role.  Nothing else of a spelling can be seen in what is
read or in what is recorded.
-/

namespace BootManual

open Text

/-! ## White space behind a line -/

namespace Line

/-- The line with white space behind it, or the line as it is.  Only the latter is
allowed if there are no characters but tabs in it. -/
inductive Pads (line : Text) : Text → Prop
  | same : Pads line line
  | behind {gap : Text} (filled : ∃ letter ∈ line, letter ≠ '\t') (blank : IsGap gap) :
      Pads line (line ++ gap)

variable {line gap other : Text}

theorem body_ne_nil (filled : ∃ letter ∈ line, letter ≠ '\t') : body line ≠ [] := by
  intro empty
  obtain ⟨letter, inside, other⟩ := filled
  have tab := List.dropWhile_eq_nil_iff.mp empty letter inside
  exact other (by simpa using tab)

theorem body_append (filled : ∃ letter ∈ line, letter ≠ '\t') (gap : Text) :
    body (line ++ gap) = body line ++ gap := by
  rw [body, List.dropWhile_append, ← body, if_neg (by simpa using body_ne_nil filled)]

theorem indent_append (filled : ∃ letter ∈ line, letter ≠ '\t') (gap : Text) :
    indent (line ++ gap) = indent line := by
  have whole : (line ++ gap).takeWhile (· == '\t') ++ body (line ++ gap) = line ++ gap :=
    List.takeWhile_append_dropWhile
  have part : line.takeWhile (· == '\t') ++ body line = line := List.takeWhile_append_dropWhile
  rw [body_append filled, ← List.append_assoc] at whole
  have tabs := List.append_cancel_right ((List.append_cancel_right whole).trans part.symm)
  rw [indent, indent, tabs]

theorem startsName_append_gap {text : Text} (nonempty : text ≠ []) (gap : Text) :
    startsName (text ++ gap) = startsName text := by
  cases text with
  | nil => contradiction
  | cons letter rest => rfl

/-- White space behind a line does not change its role. -/
theorem classify_append (filled : ∃ letter ∈ line, letter ≠ '\t') (blank : IsGap gap) :
    classify (line ++ gap) = classify line := by
  have nonempty : line ≠ [] := by
    rintro rfl
    simp at filled
  simp only [classify, indent_append filled, body_append filled,
    startsName_append_gap (body_ne_nil filled), trimEnd_append_gap _ blank,
    trim_append_gap _ blank, List.isEmpty_iff, List.append_eq_nil_iff, nonempty, false_and]

/-- Behind nothing but tabs, white space matters: a tab makes a line another one. -/
example : classify "\t\t".toList = ignored ∧
    classify "\t\t\t".toList = continuation .three [] := by decide

theorem Pads.classify_eq (pads : Pads line other) : classify other = classify line := by
  cases pads with
  | same => rfl
  | behind filled blank => exact classify_append filled blank

theorem Pads.trim_eq (pads : Pads line other) : trim other = trim line := by
  cases pads with
  | same => rfl
  | behind filled blank => exact trim_append_gap line blank

end Line

/-! ## Reading -/

namespace Reader

/-- Apart from its role, all that matters of a line is whether it is blank. -/
theorem route_of_trim_eq {raw other : Text} (same : trim other = trim raw) (context : Context)
    (count : Nat) (role : Line) (state : State) :
    route context count other role state = route context count raw role state := by
  cases role <;> cases state <;> simp only [route, same]

variable {line other : Text}

/-- White space behind a line makes no difference, not even to the records. -/
theorem advance_of_pads (reader : Reader) (pads : Line.Pads line other) :
    reader.advance other = reader.advance line := by
  simp only [advance, pads.classify_eq, route_of_trim_eq pads.trim_eq]

theorem feedAll_of_pads {lines others : List Text} (pads : List.Forall₂ Line.Pads lines others)
    (reader : Reader) : reader.feedAll others = reader.feedAll lines := by
  induction pads generalizing reader with
  | nil => rfl
  | @cons line other rest others first _ inductionHypothesis =>
      have fed : reader.feed other = reader.feed line := by
        rw [feed_eq, feed_eq, advance_of_pads reader first]
      simp only [feedAll, fed, inductionHypothesis]

end Reader

/-! ## Spellings -/

namespace Lines

/-- The text with a carriage return in front of every newline. -/
def withReturns (text : Text) : Text :=
  text.flatMap fun letter => if letter = '\n' then ['\r', '\n'] else [letter]

/-- The other spellings of a text without carriage returns: with returns in front of
all newlines, with a newline behind a last line that has none, and with white space
behind lines. -/
inductive Respells (text : Text) : Text → Prop
  | returns : Respells text (withReturns text)
  | closed {letter : Char} (last : text.getLast? = some letter) (unclosed : letter ≠ '\n') :
      Respells text (text ++ ['\n'])
  | padded {other : Text}
      (pads : List.Forall₂ Line.Pads (pieces '\n' text) (pieces '\n' other)) :
      Respells text other

theorem withReturns_of_oneLine {line : Text} (oneLine : '\n' ∉ line) : withReturns line = line := by
  induction line with
  | nil => rfl
  | cons letter rest inductionHypothesis =>
      rw [List.mem_cons, not_or] at oneLine
      have same : withReturns (letter :: rest) = letter :: withReturns rest := by
        simp [withReturns, Ne.symm oneLine.1]
      rw [same, inductionHypothesis oneLine.2]

theorem withReturns_append_newline {line : Text} (oneLine : '\n' ∉ line) (rest : Text) :
    withReturns (line ++ '\n' :: rest) = (line ++ ['\r']) ++ '\n' :: withReturns rest := by
  have front : withReturns line = line := withReturns_of_oneLine oneLine
  rw [withReturns] at front
  simp [withReturns, front]

/-- Carriage returns in front of newlines are dropped with them. -/
theorem ofText_withReturns {text : Text} (plain : '\r' ∉ text) :
    ofText (withReturns text) = ofText text := by
  induction text using by_line with
  | last line oneLine => rw [withReturns_of_oneLine oneLine]
  | line line rest oneLine inductionHypothesis =>
      have plainLine : '\r' ∉ line := fun inside => plain (List.mem_append_left _ inside)
      have plainRest : '\r' ∉ rest := fun inside => plain (by simp [inside])
      have oneLineReturn : '\n' ∉ line ++ ['\r'] := by simpa using oneLine
      have dropped : dropReturn '\r' (line ++ ['\r']) = line := by simp [dropReturn]
      rw [withReturns_append_newline oneLine, ofText_append_newline oneLineReturn, dropped,
        ofText_append_newline oneLine, dropReturn_of_not_mem plainLine,
        inductionHypothesis plainRest]

/-- A newline that closes the last line adds no line. -/
theorem ofText_closed {text : Text} (plain : '\r' ∉ text) {letter : Char}
    (last : text.getLast? = some letter) (unclosed : letter ≠ '\n') :
    ofText (text ++ ['\n']) = ofText text := by
  induction text using by_line with
  | last line oneLine =>
      have nonempty : line ≠ [] := by
        rintro rfl
        contradiction
      rw [ofText_append_newline oneLine, dropReturn_of_not_mem plain, ofText_of_oneLine oneLine,
        if_neg (by simpa using nonempty)]
      rfl
  | line line rest oneLine inductionHypothesis =>
      have plainRest : '\r' ∉ rest := fun inside => plain (by simp [inside])
      have lastRest : rest.getLast? = some letter := by
        cases rest with
        | nil =>
            rw [List.getLast?_concat] at last
            exact absurd (Option.some.inj last).symm unclosed
        | cons first others => simpa using last
      rw [List.append_assoc, List.cons_append, ofText_append_newline oneLine,
        ofText_append_newline oneLine, inductionHypothesis plainRest lastRest]

/-- A carriage return among the white space behind a line may be dropped with the
newline. -/
theorem pads_dropReturn {line other : Text} (plain : '\r' ∉ line) (pads : Line.Pads line other) :
    Line.Pads line (dropReturn '\r' other) := by
  cases pads with
  | same =>
      rw [dropReturn_of_not_mem plain]
      exact .same
  | @behind gap filled blank =>
      unfold dropReturn
      split
      · by_cases empty : gap = []
        · next returned =>
          rw [empty, List.append_nil] at returned
          exact absurd (List.mem_of_getLast? (by simpa using returned)) plain
        · rw [List.dropLast_append_of_ne_nil empty]
          exact .behind filled fun letter inside =>
            blank letter ((List.dropLast_subset gap) inside)
      · exact .behind filled blank

/-- White space behind the lines of a text stands behind its lines when it is cut. -/
theorem pads_ofText {lines others : List Text} (pads : List.Forall₂ Line.Pads lines others)
    (plain : ∀ line ∈ lines, '\r' ∉ line) (oneLine : ∀ line ∈ lines, '\n' ∉ line)
    (oneLineOther : ∀ line ∈ others, '\n' ∉ line) :
    List.Forall₂ Line.Pads (ofText (join ['\n'] lines)) (ofText (join ['\n'] others)) := by
  induction pads with
  | nil => exact .nil
  | @cons line other rest others first more inductionHypothesis =>
      rw [List.forall_mem_cons] at plain oneLine oneLineOther
      cases more with
      | nil =>
          rw [join_singleton, join_singleton, ofText_of_oneLine oneLine.1,
            ofText_of_oneLine oneLineOther.1]
          cases first with
          | same => exact List.forall₂_same.mpr fun _ _ => .same
          | behind filled blank =>
              have nonempty : line ≠ [] := by
                rintro rfl
                simp at filled
              rw [if_neg (by simpa using nonempty), if_neg (by simp [nonempty])]
              exact .cons (.behind filled blank) .nil
      | cons second others =>
          rw [join_cons _ _ (List.cons_ne_nil _ _), join_cons _ _ (List.cons_ne_nil _ _),
            List.append_assoc, List.append_assoc]
          change List.Forall₂ _ (ofText (_ ++ '\n' :: _)) (ofText (_ ++ '\n' :: _))
          rw [ofText_append_newline oneLine.1, ofText_append_newline oneLineOther.1,
            dropReturn_of_not_mem plain.1]
          exact .cons (pads_dropReturn plain.1 first)
            (inductionHypothesis plain.2 oneLine.2 oneLineOther.2)

/-- The lines of another spelling are the lines of the text, up to white space behind
them. -/
theorem Respells.pads {text other : Text} (respells : Respells text other)
    (plain : '\r' ∉ text) : List.Forall₂ Line.Pads (ofText text) (ofText other) := by
  cases respells with
  | returns =>
      rw [ofText_withReturns plain]
      exact List.forall₂_same.mpr fun _ _ => .same
  | closed last unclosed =>
      rw [ofText_closed plain last unclosed]
      exact List.forall₂_same.mpr fun _ _ => .same
  | padded pads =>
      rw [← join_pieces '\n' text, ← join_pieces '\n' other]
      refine pads_ofText pads (fun line listed inside => plain ?_) ?_ ?_
      · exact (mem_of_mem_pieces listed inside).1
      · exact fun line listed inside => (mem_of_mem_pieces listed inside).2 rfl
      · exact fun line listed inside => (mem_of_mem_pieces listed inside).2 rfl

end Lines

/-! ## Manuals -/

namespace Manual

/-- Another spelling of a manual comes to the same, records included, whether it is
read as a text or as a stream of bytes. -/
theorem reads_respelled (context : Context) {text other : Text} (plain : '\r' ∉ text)
    (respells : Lines.Respells text other) :
    ofText context other = ofText context text ∧
      ofStream context ⟨Utf8.encode other, none⟩ = ofStream context ⟨Utf8.encode text, none⟩ := by
  have read : ofText context other = ofText context text := by
    rw [ofText, ofText, ofLines, ofLines, Reader.feedAll_of_pads (respells.pads plain)]
  rw [ofStream_encode, ofStream_encode]
  exact ⟨read, read⟩

/-- White space of several kinds stands behind a header and behind a line without a role,
and a carriage return is part of it.  The lines with nothing but tabs stay as they are. -/
theorem reads_respelled_padded :
    let text := "\ta=b c\n \n\t\t\n\n\t\t\tx".toList
    let other := "\ta=b c\t \r\r\n \u2003\n\t\t\n\n\t\t\tx\r".toList
    '\r' ∉ text ∧ Lines.Respells text other ∧ ofText .plain other = ofText .plain text := by
  intro text other
  have plain : '\r' ∉ text := by decide
  have cut : pieces '\n' text =
      ["\ta=b c".toList, [' '], ['\t', '\t'], [], "\t\t\tx".toList] := by decide
  have cutOther : pieces '\n' other =
      ["\ta=b c".toList ++ "\t \r\r".toList, [' '] ++ ['\u2003'], ['\t', '\t'], [],
        "\t\t\tx".toList ++ ['\r']] := by decide
  have pads : List.Forall₂ Line.Pads (pieces '\n' text) (pieces '\n' other) := by
    rw [cut, cutOther]
    have header : Line.Pads "\ta=b c".toList ("\ta=b c".toList ++ "\t \r\r".toList) :=
      .behind ⟨'a', by decide, by decide⟩ (by decide)
    have prose : Line.Pads [' '] ([' '] ++ ['\u2003']) :=
      .behind ⟨' ', by decide, by decide⟩ (by decide)
    have description : Line.Pads "\t\t\tx".toList ("\t\t\tx".toList ++ ['\r']) :=
      .behind ⟨'x', by decide, by decide⟩ (by decide)
    exact .cons header (.cons prose (.cons .same (.cons .same (.cons description .nil))))
  have respells : Lines.Respells text other := .padded pads
  exact ⟨plain, respells, (reads_respelled .plain plain respells).1⟩

end Manual

end BootManual
