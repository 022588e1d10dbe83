import BootManual.Proofs.EncodedLines
import BootManual.Proofs.Failures

/-!
# Reading from a stream

A manual that is delivered line by line comes to the same as the manual in one piece, as
long as every line can be read.  Otherwise reading stops at the first line that is not
text or that fails, and what stands in front of this line has been read by then.
-/

namespace BootManual

namespace Reader

variable {reader : Reader} {delivered : List (Except Text Text)}
  {stop : Attempt (Catalogue Entry)}

/-- Delivered lines stop a reader at the first line that cannot be read or that fails.
All lines in front of it have been fed. -/
inductive Stops (reader : Reader) : List (Except Text Text) → Attempt (Catalogue Entry) → Prop
  | unreadable {front : List Text} {reason : Text} {rest : List (Except Text Text)}
      (fed : (reader.feedAll front).failure = none) :
      Stops reader (front.map .ok ++ .error reason :: rest)
        ⟨(reader.feedAll front).log, .error (.unreadable reason)⟩
  | failed {front : List Text} {line : Text} {rest : List (Except Text Text)} {error : ParseError}
      (fed : (reader.feedAll front).failure = none)
      (fails : ((reader.feedAll front).reader.feed line).failure = some error) :
      Stops reader (front.map .ok ++ .ok line :: rest)
        ⟨(reader.feedAll front).log ++ ((reader.feedAll front).reader.feed line).log,
          .error error⟩

/-! ## Feeding what is delivered -/

/-- Lines that are all delivered are fed like any others. -/
theorem feedDelivered_map (reader : Reader) (lines : List Text) :
    reader.feedDelivered (lines.map .ok) = reader.feedAll lines := by
  induction lines generalizing reader with
  | nil => rfl
  | cons line rest inductionHypothesis =>
      rw [List.map_cons, feedDelivered, feedAll]
      simp only [inductionHypothesis]

theorem feedDelivered_map_append {front : List Text}
    (fed : (reader.feedAll front).failure = none) (rest : List (Except Text Text)) :
    reader.feedDelivered (front.map .ok ++ rest) =
      { (reader.feedAll front).reader.feedDelivered rest with
        log := (reader.feedAll front).log ++
          ((reader.feedAll front).reader.feedDelivered rest).log } := by
  induction front generalizing reader with
  | nil => rfl
  | cons line others inductionHypothesis =>
      have first := failure_feed_of_feedAll fed
      rw [feedAll_cons first] at fed ⊢
      rw [List.map_cons, List.cons_append, feedDelivered, Progress.andThen_of_success first]
      simp only [inductionHypothesis fed, List.append_assoc]

namespace Stops

/-- Where a reader stops, it fails with the records written so far. -/
theorem conclude_feedDelivered (stops : reader.Stops delivered stop) :
    (reader.feedDelivered delivered).conclude = stop := by
  cases stops with
  | unreadable fed =>
      rw [feedDelivered_map_append fed]
      simp [feedDelivered, Progress.conclude]
  | failed fed fails =>
      rw [feedDelivered_map_append fed]
      simp [feedDelivered, Progress.andThen_of_failure fails, fails, Progress.conclude]

theorem failure_feedDelivered (stops : reader.Stops delivered stop) :
    (reader.feedDelivered delivered).failure ≠ none := by
  cases stops with
  | unreadable fed =>
      rw [feedDelivered_map_append fed]
      exact Option.some_ne_none _
  | failed fed fails =>
      rw [feedDelivered_map_append fed]
      simp [feedDelivered, Progress.andThen_of_failure fails, fails]

theorem exists_error (stops : reader.Stops delivered stop) :
    ∃ error, stop.result = .error error := by
  cases stops with
  | unreadable fed => exact ⟨_, rfl⟩
  | failed fed fails => exact ⟨_, rfl⟩

/-- What follows the line at which a reader stops makes no difference. -/
theorem append (stops : reader.Stops delivered stop) (more : List (Except Text Text)) :
    reader.Stops (delivered ++ more) stop := by
  cases stops with
  | unreadable fed =>
      rw [List.append_assoc, List.cons_append]
      exact .unreadable fed
  | failed fed fails =>
      rw [List.append_assoc, List.cons_append]
      exact .failed fed fails

theorem cons {line : Text} (fed : (reader.feed line).failure = none)
    (stops : (reader.feed line).reader.Stops delivered stop) :
    reader.Stops (.ok line :: delivered) ⟨(reader.feed line).log ++ stop.log, stop.result⟩ := by
  cases stops with
  | @unreadable front reason rest fedFront =>
      have whole := feedAll_cons fed front
      have stops : reader.Stops ((line :: front).map .ok ++ .error reason :: rest) _ :=
        .unreadable (by rw [whole]; exact fedFront)
      rw [whole] at stops
      exact stops
  | @failed front last rest error fedFront fails =>
      have whole := feedAll_cons fed front
      have stops : reader.Stops ((line :: front).map .ok ++ .ok last :: rest) _ :=
        .failed (by rw [whole]; exact fedFront) (by rw [whole]; exact fails)
      rw [whole] at stops
      rw [← List.append_assoc]
      exact stops

end Stops

/-- A reader stops unless all lines are delivered and none of them fails. -/
theorem stops_or_fed (reader : Reader) (delivered : List (Except Text Text)) :
    (∃ stop, reader.Stops delivered stop) ∨
      ∃ lines, delivered = lines.map .ok ∧ (reader.feedAll lines).failure = none := by
  induction delivered generalizing reader with
  | nil => exact .inr ⟨[], rfl, rfl⟩
  | cons first rest inductionHypothesis =>
      cases first with
      | error reason => exact .inl ⟨_, @Stops.unreadable reader [] reason rest rfl⟩
      | ok line =>
          cases failed : (reader.feed line).failure with
          | some error => exact .inl ⟨_, @Stops.failed reader [] line rest error rfl failed⟩
          | none =>
              rcases inductionHypothesis (reader.feed line).reader with
                ⟨stop, stops⟩ | ⟨lines, rfl, fed⟩
              · exact .inl ⟨_, stops.cons failed⟩
              · right
                refine ⟨line :: lines, rfl, ?_⟩
                rw [feedAll_cons failed]
                exact fed

end Reader

/-! ## Bytes -/

namespace Manual

open ByteStream

/-- A text comes to the same when its bytes are read as a stream, records included. -/
theorem ofStream_encode (context : Context) (text : Text) :
    ofStream context ⟨Utf8.encode text, none⟩ = ofText context text := by
  have delivered : ByteStream.lines ⟨Utf8.encode text, none⟩ = (Lines.ofText text).map .ok :=
    Lines.map_decodeLine_ofBytes_encode text
  rw [ofStream, delivered, Reader.feedDelivered_map]
  rfl

theorem ofStream_of_stops {context : Context} {stream : ByteStream}
    {stop : Attempt (Catalogue Entry)} (stops : (Reader.start context).Stops stream.lines stop) :
    ofStream context stream = stop :=
  stops.conclude_feedDelivered

/-- A stream stops the reader, or it is a text whose lines can all be fed. -/
theorem stops_or_decode (context : Context) (bytes : List UInt8) :
    (Reader.start context).Stops ((Lines.ofBytes bytes).map decodeLine)
        (ofStream context ⟨bytes, none⟩) ∨
      ∃ text, Utf8.decode bytes = some text ∧
        ((Reader.start context).feedAll (Lines.ofText text)).failure = none := by
  rcases Reader.stops_or_fed (Reader.start context) ((Lines.ofBytes bytes).map decodeLine) with
    ⟨stop, stops⟩ | ⟨lines, delivered, fed⟩
  · left
    have read : ofStream context ⟨bytes, none⟩ = stop := ofStream_of_stops stops
    rwa [read]
  · right
    rcases Lines.exists_decode_of_map_decodeLine delivered with ⟨text, decoded, rfl⟩
    exact ⟨text, decoded, fed⟩

/-- Reading a stream agrees with reading a text, and where it fails it does so in the order
of the lines.  The bytes of a text come to what the text comes to, records included.
Other bytes never come to entries: a stream is read exactly if it is a text that is
read.  A failure is that of the first line that is not text or that fails, after all
lines in front of it have been fed, or, if there is no such line, that of the end of the
text.  A stream that breaks always fails: at the first such line among those that a
newline closes, and otherwise for the reason of the break. -/
theorem stream_fails_in_order (context : Context) :
    (∀ text, ofStream context ⟨Utf8.encode text, none⟩ = ofText context text) ∧
    (∀ bytes entries,
      (ofStream context ⟨bytes, none⟩).result = .ok entries ↔
        ∃ text, Utf8.decode bytes = some text ∧ (ofText context text).result = .ok entries) ∧
    (∀ bytes error, (ofStream context ⟨bytes, none⟩).result = .error error →
      (Reader.start context).Stops ((Lines.ofBytes bytes).map decodeLine)
          (ofStream context ⟨bytes, none⟩) ∨
        ∃ text, Utf8.decode bytes = some text ∧
          let fed := (Reader.start context).feedAll (Lines.ofText text)
          fed.failure = none ∧ fed.reader.finish.result = .error error) ∧
    ∀ bytes reason,
      let delivered := (Lines.closedOfBytes bytes).map decodeLine
      let read := ofStream context ⟨bytes, some reason⟩
      (∃ error, read.result = .error error) ∧
        ((Reader.start context).Stops delivered read ∨
          ∃ lines, delivered = lines.map .ok ∧
            let fed := (Reader.start context).feedAll lines
            fed.failure = none ∧ read = ⟨fed.log, .error (.unreadable reason)⟩) := by
  have agrees {bytes : List UInt8} {text : Text} (decoded : Utf8.decode bytes = some text) :
      ofStream context ⟨bytes, none⟩ = ofText context text := by
    rw [← Utf8.encode_of_decode decoded, ofStream_encode]
  refine ⟨ofStream_encode context, ?_, ?_, ?_⟩
  · intro bytes entries
    constructor
    · intro read
      rcases stops_or_decode context bytes with stops | ⟨text, decoded, -⟩
      · rcases stops.exists_error with ⟨error, failed⟩
        rw [read] at failed
        contradiction
      · rw [agrees decoded] at read
        exact ⟨text, decoded, read⟩
    · rintro ⟨text, decoded, read⟩
      rwa [agrees decoded]
  · intro bytes error failed
    rcases stops_or_decode context bytes with stops | ⟨text, decoded, fed⟩
    · exact .inl stops
    · right
      rw [agrees decoded, ofText, ofLines, Progress.conclude, fed] at failed
      exact ⟨text, decoded, fed, failed⟩
  · intro bytes reason delivered read
    have lines : ByteStream.lines ⟨bytes, some reason⟩ = delivered ++ [.error reason] := rfl
    rcases Reader.stops_or_fed (Reader.start context) delivered with
      ⟨stop, stops⟩ | ⟨texts, allDelivered, fed⟩
    · have concluded : read = stop := by
        apply ofStream_of_stops
        rw [lines]
        exact stops.append _
      rw [concluded]
      exact ⟨stops.exists_error, .inl stops⟩
    · have concluded : read = ⟨((Reader.start context).feedAll texts).log,
          .error (.unreadable reason)⟩ := by
        apply ofStream_of_stops
        rw [lines, allDelivered]
        exact .unreadable fed
      rw [concluded]
      exact ⟨⟨_, rfl⟩, .inr ⟨texts, allDelivered, fed, rfl⟩⟩

/-- A byte that begins no character stops the reader when its line is reached, and the line
in front of it has been fed by then. -/
theorem stream_fails_at_stray_byte :
    let bytes := Utf8.encode "\ta\n\tb".toList ++ [0xFF, 0x0A, 0x09]
    let error := ParseError.unreadable notUtf8
    (ofStream Context.plain ⟨bytes, none⟩).result = .error error ∧
      (Reader.start Context.plain).Stops ((Lines.ofBytes bytes).map decodeLine)
        (ofStream Context.plain ⟨bytes, none⟩) := by
  intro bytes error
  have failed : (ofStream Context.plain ⟨bytes, none⟩).result = .error error := rfl
  have undecodable : Utf8.decode bytes = none := rfl
  constructor
  · exact failed
  · rcases (stream_fails_in_order Context.plain).2.2.1 bytes error failed with
      stops | ⟨text, decoded, -⟩
    · exact stops
    · rw [undecodable] at decoded
      contradiction

/-- A name that the last header repeats is rejected at the end of the stream, and none of
its lines fails. -/
theorem stream_fails_at_end :
    let context := Context.mk none .reject
    let bytes := Utf8.encode "\ta\n\ta\n".toList
    (ofStream context ⟨bytes, none⟩).result =
        .error (.duplicateName "a".toList " at line 2".toList) ∧
      ∀ stop, ¬(Reader.start context).Stops ((Lines.ofBytes bytes).map decodeLine) stop := by
  intro context bytes
  have delivered : (Lines.ofBytes bytes).map decodeLine =
      ["\ta".toList, "\ta".toList].map .ok := rfl
  have fed : ((Reader.start context).feedAll ["\ta".toList, "\ta".toList]).failure = none := rfl
  have place : context.place 1 = " at line 2".toList := by decide
  constructor
  · rw [ofStream_encode, ← place]
    rfl
  · intro stop stops
    apply stops.failure_feedDelivered
    rw [delivered, Reader.feedDelivered_map, fed]

end Manual

end BootManual
