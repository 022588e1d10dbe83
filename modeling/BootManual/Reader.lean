import BootManual.Line
import BootManual.Reader.Commit

/-!
# Reading line by line

A reader takes one line at a time and routes it by its role to the entry that is
open.  A header commits what it ends and opens its own entry; any other line adds
to the innermost open entry or has no effect.  What is open is taken out of the
reader first and put back last, so a line that fails leaves nothing open, and the
reader is handed out as it is by then.  Reading can go on from there.
-/

namespace BootManual

/-- A manual that has been read up to some line. -/
structure Reader where
  context : Context
  state : State
  /-- The committed parameters. -/
  entries : Catalogue Entry
  /-- How many lines have been read. -/
  count : Nat
  deriving DecidableEq, Repr

/-- What reading came to: the reader that was reached, the records written, and the
error if something failed. -/
structure Progress where
  reader : Reader
  log : List Record
  failure : Option ParseError

/-- Go on with the reader that has been reached, unless something has failed.  Then that
reader stays as it is. -/
def Progress.andThen (first : Progress) (next : Reader → Progress) : Progress :=
  match first.failure with
  | some _ => first
  | none =>
    let others := next first.reader
    { others with log := first.log ++ others.log }

namespace Reader

/-- A reader to which nothing happens. -/
def pause (reader : Reader) : Progress :=
  ⟨reader, [], none⟩

/-- Make an attempt and go on with what it yields.  An attempt only looks at the reader,
so if it fails, the reader is handed out as what came before has left it. -/
def attempting {Value : Type} (reader : Reader) (attempt : Attempt Value)
    (next : Value → Progress) : Progress :=
  match attempt.result with
  | .error error => ⟨reader, attempt.log, some error⟩
  | .ok value =>
    let others := next value
    { others with log := attempt.log ++ others.log }

/-- A reader in front of the first line. -/
def start (context : Context) : Reader :=
  ⟨context, .idle, Catalogue.empty, 0⟩

/-- A new entry as its header describes it. -/
def entryOfHeader (header : Header) : Entry :=
  { name := header.name
    flags := header.flags
    format := match header.hint with
      | none => .unset
      | some hint => .literal hint
    description := header.description
    children := Catalogue.empty }

/-- The entry that a header opens. -/
def openEntry (context : Context) (line : Nat) (text : Text) : Attempt Entry :=
  match Header.read? text with
  | some header => pure (entryOfHeader header)
  | none =>
    Attempt.fail ((ParseError.malformedHeader (Text.trim text) []).locate context line)

/-- Open a parameter. -/
def openParameter (context : Context) (line : Nat) (text : Text) : Attempt OpenParameter := do
  let entry ← openEntry context line text
  Attempt.note line (.openParameter entry.name)
  pure ⟨Draft.start entry, line⟩

/-- Open a sub-parameter inside a parameter. -/
def openSubparameter (context : Context) (line : Nat) (top : OpenParameter) (text : Text) :
    Attempt OpenSubparameter := do
  let entry ← openEntry context line text
  Attempt.note line (.openSubparameter (Commit.qualify top.name entry.name))
  pure ⟨entry, line⟩

/-- The notice that is due for what became of a continuation line. -/
def noticeOf (outcome : Outcome) (entry : Entry) : Option Notice :=
  match outcome with
  | .blockOpened => some .blockOpened
  | .values => some (.valuesRead entry.values.length entry.name)
  | _ => none

/-- Write a notice, if there is one. -/
def noteIfAny (line : Nat) : Option Notice → Attempt Unit
  | none => pure ()
  | some notice => Attempt.note line notice

/-- Add a continuation line to the draft of a parameter. -/
def extendParameter (line : Nat) (top : OpenParameter) (text : Text) : Attempt State := do
  let (outcome, draft) := top.draft.absorb text
  noteIfAny line (noticeOf outcome draft.entry)
  pure (.parameter { top with draft })

/-- The open parameter with an empty line added to its description. -/
def breakParameter (top : OpenParameter) : OpenParameter :=
  { top with draft := { top.draft with entry := Draft.describe top.draft.entry [[]] } }

/-- The open sub-parameter with a line added to its description. -/
def describeSubparameter (sub : OpenSubparameter) (text : Text) : OpenSubparameter :=
  { sub with entry := Draft.describe sub.entry [text] }

/-- What a line other than a parameter header makes of the open entries. -/
def route (context : Context) (line : Nat) (raw : Text) : Line → State → Attempt State
  | .blank, .parameter top => pure (.parameter (breakParameter top))
  | .blank, .subparameter top sub => pure (.subparameter top (describeSubparameter sub []))
  | .nestedHeader text, .parameter top => do
    let sub ← openSubparameter context line top text
    pure (.subparameter top sub)
  | .nestedHeader text, .subparameter top sub => do
    let top ← Commit.subparameter context line top sub
    let sub ← openSubparameter context line top text
    pure (.subparameter top sub)
  | .nestedHeader text, .idle => do
    Attempt.note line (.strayHeader text)
    pure .idle
  | .continuation .three text, .parameter top => extendParameter line top text
  | .continuation _ text, .subparameter top sub =>
    pure (.subparameter top (describeSubparameter sub text))
  | .continuation .four text, .parameter top => do
    Attempt.note line (.dropped text)
    pure (.parameter top)
  | .ignored, state => do
    if !(Text.trim raw).isEmpty then
      Attempt.note line .ignoredLine
    pure state
  | _, state => pure state

/-- Insert a finished parameter into the committed entries. -/
def commit (reader : Reader) (top : OpenParameter) : Progress :=
  reader.attempting (Commit.parameter reader.context reader.count reader.entries top)
    fun entry => { reader with entries := reader.entries.insert entry }.pause

/-- Commit what was open, the innermost entry first. -/
def close (reader : Reader) : State → Progress
  | .idle => reader.pause
  | .parameter top => reader.commit top
  | .subparameter top sub =>
    reader.attempting (Commit.subparameter reader.context reader.count top sub) reader.commit

/-- What a line makes of a reader with nothing open and of what was open in it. -/
def turn (reader : Reader) (line : Text) (state : State) : Progress :=
  match Line.classify line with
  | .topHeader text =>
    (reader.close state).andThen fun closed =>
      closed.attempting (openParameter closed.context closed.count text)
        fun top => { closed with state := .parameter top }.pause
  | role =>
    reader.attempting (route reader.context reader.count line role state)
      fun state => { reader with state }.pause

/-- Feed the next line, without its line end.  It counts once everything it asks for
is done. -/
def feed (reader : Reader) (line : Text) : Progress :=
  ({ reader with state := .idle }.turn line reader.state).andThen
    fun fed => { fed with count := fed.count + 1 }.pause

/-- Feed lines until one of them fails. -/
def feedAll (reader : Reader) : List Text → Progress
  | [] => reader.pause
  | line :: rest => (reader.feed line).andThen fun fed => fed.feedAll rest

/-- Commit what is still open and hand out the entries. -/
def finish (reader : Reader) : Attempt (Catalogue Entry) :=
  let last := { reader with state := .idle }.close reader.state
  match last.failure with
  | some error => ⟨last.log, .error error⟩
  | none => ⟨last.log, .ok last.reader.entries⟩

end Reader

namespace Progress

/-- The entries that were read, unless a line failed. -/
def conclude (progress : Progress) : Attempt (Catalogue Entry) :=
  match progress.failure with
  | some error => ⟨progress.log, .error error⟩
  | none =>
    let last := progress.reader.finish
    ⟨progress.log ++ last.log, last.result⟩

end Progress

end BootManual
