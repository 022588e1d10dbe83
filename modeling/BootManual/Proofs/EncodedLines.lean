import Mathlib.Data.Set.List
import BootManual.Manual
import BootManual.Proofs.Cutting

/-!
# Lines of encoded texts

Every byte of a character that is not ASCII has its highest bit set.  So the byte of a
newline or of a carriage return stands in an encoded text only where the character
stands, and it makes no difference whether a text is cut into lines before or after it
is encoded.  Bytes are an encoded text exactly if each of their lines is one.
-/

namespace BootManual

/-! ## ASCII characters -/

namespace Utf8

/-- A character is one byte of its own code, or none of its bytes is ASCII. -/
theorem utf8EncodeChar_cases (letter : Char) :
    (∃ byte : UInt8, String.utf8EncodeChar letter = [byte] ∧ byte.toNat = letter.toNat) ∨
      ∀ byte ∈ String.utf8EncodeChar letter, 128 ≤ byte.toNat := by
  have code : letter.toNat = letter.val.toNat := rfl
  rw [String.utf8EncodeChar]
  split
  · left
    refine ⟨_, rfl, ?_⟩
    rw [code, UInt8.toNat_ofNat']
    omega
  all_goals
    right
    repeat' split
    all_goals
      simp only [List.forall_mem_cons, List.not_mem_nil, false_imp_iff, implies_true, and_true,
        UInt8.toNat_ofNat']
      omega

variable {mark letter : Char} {byte : UInt8}

/-- The byte of an ASCII character stands only in the encoding of that character. -/
theorem not_mem_utf8EncodeChar (encoded : String.utf8EncodeChar mark = [byte])
    (ascii : byte.toNat < 128) (different : letter ≠ mark) :
    byte ∉ String.utf8EncodeChar letter := by
  intro inside
  have markCode : byte.toNat = mark.toNat := by
    rcases utf8EncodeChar_cases mark with ⟨single, alone, code⟩ | high
    · rw [encoded] at alone
      rwa [List.head_eq_of_cons_eq alone]
    · have above := high byte (by rw [encoded]; exact List.mem_cons_self)
      omega
  rcases utf8EncodeChar_cases letter with ⟨single, alone, code⟩ | high
  · rw [alone, List.mem_singleton] at inside
    rw [← inside, markCode] at code
    exact different (Char.toNat_inj.mp code.symm)
  · have above := high byte inside
    omega

theorem not_mem_encode (encoded : String.utf8EncodeChar mark = [byte])
    (ascii : byte.toNat < 128) {text : Text} (absent : mark ∉ text) : byte ∉ encode text := by
  intro inside
  rcases List.mem_flatMap.mp inside with ⟨letter, inText, inLetter⟩
  apply not_mem_utf8EncodeChar encoded ascii _ inLetter
  rintro rfl
  exact absent inText

theorem encode_append (text other : Text) : encode (text ++ other) = encode text ++ encode other :=
  List.flatMap_append

theorem encode_concat (text : Text) (letter : Char) :
    encode (text ++ [letter]) = encode text ++ String.utf8EncodeChar letter := by
  rw [encode_append, encode, encode, List.flatMap_singleton]

theorem utf8EncodeChar_ne_nil (letter : Char) : String.utf8EncodeChar letter ≠ [] := by
  rw [String.utf8EncodeChar]
  repeat' split
  all_goals exact List.cons_ne_nil _ _

theorem isEmpty_encode (text : Text) : (encode text).isEmpty = text.isEmpty := by
  cases text with
  | nil => rfl
  | cons letter rest =>
      rw [List.isEmpty_cons, List.isEmpty_eq_false_iff, encode, List.flatMap_cons]
      exact List.append_ne_nil_of_left_ne_nil (utf8EncodeChar_ne_nil letter) _

/-- Texts are joined with an ASCII character by joining their encodings with its byte. -/
theorem encode_join (encoded : String.utf8EncodeChar mark = [byte]) (texts : List Text) :
    encode (Text.join [mark] texts) = [byte].intercalate (texts.map encode) := by
  induction texts with
  | nil => rfl
  | cons text others inductionHypothesis =>
      cases others with
      | nil => simp [Text.join]
      | cons other rest =>
          rw [Text.join_cons _ _ (List.cons_ne_nil _ _), encode_append, encode_concat, encoded,
            inductionHypothesis]
          simp only [List.map_cons, List.intercalate_cons_cons]

/-- Encoding a text before it is cut apart comes to encoding its pieces. -/
theorem splitOn_encode (encoded : String.utf8EncodeChar mark = [byte])
    (ascii : byte.toNat < 128) (text : Text) :
    (encode text).splitOn byte = (text.splitOn mark).map encode := by
  have joined : encode text = [byte].intercalate ((text.splitOn mark).map encode) := by
    rw [← encode_join encoded, Text.join, List.intercalate_splitOn]
  rw [joined, List.splitOn_intercalate]
  · intro piece listed
    rcases List.mem_map.mp listed with ⟨part, partListed, rfl⟩
    apply not_mem_encode encoded ascii
    exact fun inside => (Text.mem_of_mem_pieces partListed inside).2 rfl
  · rw [Ne, List.map_eq_nil_iff]
    exact List.splitOn_ne_nil mark text

end Utf8

/-! ## Lines -/

namespace Lines

open Utf8 ByteStream

theorem encoded_newline : String.utf8EncodeChar '\n' = [0x0A] :=
  rfl

theorem encoded_return : String.utf8EncodeChar '\r' = [0x0D] :=
  rfl

theorem dropReturn_encode (line : Text) :
    dropReturn 0x0D (encode line) = encode (dropReturn '\r' line) := by
  rcases List.eq_nil_or_concat' line with rfl | ⟨front, letter, rfl⟩
  · rfl
  · by_cases same : letter = '\r'
    · rw [same, encode_concat, encoded_return]
      simp [dropReturn]
    · have visible : (encode (front ++ [letter])).getLast? ≠ some 0x0D := by
        intro last
        rw [encode_concat, List.getLast?_append_of_ne_nil _ (utf8EncodeChar_ne_nil letter)] at last
        exact not_mem_utf8EncodeChar encoded_return (by decide) same (List.mem_of_getLast? last)
      simp [dropReturn, visible, same]

theorem splitOn_newline_encode (text : Text) :
    (encode text).splitOn 0x0A = (text.splitOn '\n').map encode :=
  splitOn_encode encoded_newline (by decide) text

theorem closed_encode (text : Text) :
    closed 0x0A 0x0D (encode text) = (closed '\n' '\r' text).map encode := by
  rw [closed, splitOn_newline_encode, ← List.map_dropLast, closed, List.map_map, List.map_map]
  exact List.map_congr_left fun line _ => dropReturn_encode line

theorem unclosed_encode (text : Text) :
    unclosed 0x0A (encode text) = encode (unclosed '\n' text) := by
  rw [unclosed, splitOn_newline_encode]
  exact List.getLastD_map (f := encode) (a := [])

/-- The lines of an encoded text are its encoded lines. -/
theorem ofBytes_encode (text : Text) : ofBytes (encode text) = (ofText text).map encode := by
  simp only [ofBytes, ofText, cut, closed_encode, unclosed_encode, isEmpty_encode]
  split <;> simp

theorem decodeLine_encode (line : Text) : decodeLine (encode line) = .ok line := by
  rw [decodeLine, decode_encode]

/-- A text in bytes is delivered as its lines. -/
theorem map_decodeLine_ofBytes_encode (text : Text) :
    (ofBytes (encode text)).map decodeLine = (ofText text).map .ok := by
  rw [ofBytes_encode, List.map_map]
  exact List.map_congr_left fun line _ => decodeLine_encode line

theorem encode_of_decodeLine {bytes : List UInt8} {line : Text}
    (decoded : decodeLine bytes = .ok line) : encode line = bytes := by
  unfold decodeLine at decoded
  split at decoded
  · next text found =>
    obtain rfl := Except.ok.inj decoded
    exact encode_of_decode found
  · contradiction

theorem exists_encode_of_dropReturn {line : List UInt8} {text : Text}
    (encoded : encode text = dropReturn 0x0D line) : ∃ whole, encode whole = line := by
  unfold dropReturn at encoded
  split at encoded
  · next last =>
    rw [beq_iff_eq] at last
    refine ⟨text ++ ['\r'], ?_⟩
    rw [encode_concat, encoded, encoded_return]
    exact List.dropLast_append_getLast? _ last
  · exact ⟨text, encoded⟩

/-- If every line of some bytes is an encoded text, then so is every piece between their
newlines. -/
theorem exists_encode_of_mem_splitOn {bytes : List UInt8}
    (each : ∀ line ∈ ofBytes bytes, ∃ text, encode text = line) {piece : List UInt8}
    (listed : piece ∈ bytes.splitOn 0x0A) : ∃ text, encode text = piece := by
  have nonempty := List.splitOn_ne_nil 0x0A bytes
  rw [← List.dropLast_concat_getLast nonempty, List.mem_append, List.mem_singleton] at listed
  rcases listed with closedPiece | rfl
  · rcases each (dropReturn 0x0D piece)
      (List.mem_append_left _ (List.mem_map_of_mem closedPiece)) with ⟨text, encoded⟩
    exact exists_encode_of_dropReturn encoded
  · have last : unclosed 0x0A bytes = (bytes.splitOn 0x0A).getLast nonempty := by
      rw [unclosed, List.getLastD_eq_getLast?, List.getLast?_eq_some_getLast nonempty]
      rfl
    rw [← last]
    by_cases empty : unclosed 0x0A bytes = []
    · exact ⟨[], empty.symm⟩
    · apply each
      apply List.mem_append_right
      simp [empty]

/-- Bytes of which every line is delivered are an encoded text of these lines. -/
theorem exists_decode_of_map_decodeLine {bytes : List UInt8} {lines : List Text}
    (delivered : (ofBytes bytes).map decodeLine = lines.map .ok) :
    ∃ text, decode bytes = some text ∧ ofText text = lines := by
  have each : ∀ line ∈ ofBytes bytes, ∃ text, encode text = line := by
    intro line listed
    have found : decodeLine line ∈ lines.map Except.ok := by
      rw [← delivered]
      exact List.mem_map_of_mem listed
    rcases List.mem_map.mp found with ⟨text, _, decoded⟩
    exact ⟨text, encode_of_decodeLine decoded.symm⟩
  have pieces : bytes.splitOn 0x0A ∈ Set.range (List.map encode) := by
    rw [Set.range_list_map]
    exact fun piece listed => exists_encode_of_mem_splitOn each listed
  rcases pieces with ⟨texts, split⟩
  have whole : encode (Text.join ['\n'] texts) = bytes := by
    rw [encode_join encoded_newline, split, List.intercalate_splitOn]
  refine ⟨Text.join ['\n'] texts, decode_eq_some_iff.mpr whole, ?_⟩
  rw [← whole, map_decodeLine_ofBytes_encode] at delivered
  exact List.map_injective_iff.mpr (fun _ _ => Except.ok.inj) delivered

end Lines

end BootManual
