import BootManual.Text.Blank

/-!
# UTF-8

Encoding maps every character to one to four bytes.  Decoding reads the length of
a character from its first byte, gathers the code from the payload bits, and then
accepts the character only if its own encoding is what was read.  That one test
rejects overlong forms, surrogates, codes past the last one and stray bytes, so
what is decoded is always what encoding had produced.
-/

namespace BootManual.Utf8

/-- The bytes of a text. -/
def encode (text : Text) : List UInt8 :=
  text.flatMap String.utf8EncodeChar

/-- The number of bytes of a text. -/
def size (text : Text) : Nat :=
  (encode text).length

/-- The low six bits, the payload of every byte but the first. -/
def payload (byte : UInt8) : Nat :=
  byte.toNat % 64

/-- The character with this code in front of the decoded rest, provided that the
bytes are the encoding of that character. -/
def accept (bytes : List UInt8) (code : Nat) (rest : Option Text) : Option Text :=
  if String.utf8EncodeChar (Char.ofNat code) = bytes then
    rest.map (Char.ofNat code :: ·)
  else
    none

/-- The text with these bytes, if there is one. -/
def decode : List UInt8 → Option Text
  | [] => some []
  | first :: rest =>
    if first < 0x80 then
      accept [first] first.toNat (decode rest)
    else
      match rest with
      | [] => none
      | second :: rest =>
        if first < 0xE0 then
          accept [first, second] (first.toNat % 32 * 64 + payload second) (decode rest)
        else
          match rest with
          | [] => none
          | third :: rest =>
            if first < 0xF0 then
              accept [first, second, third]
                (first.toNat % 16 * 4096 + payload second * 64 + payload third) (decode rest)
            else
              match rest with
              | [] => none
              | fourth :: rest =>
                accept [first, second, third, fourth]
                  (first.toNat % 8 * 262144 + payload second * 4096 + payload third * 64 +
                    payload fourth) (decode rest)

/-! ## Decoding inverts encoding -/

/-- The encoding of an accepted character and of what follows it is what was
read. -/
theorem encode_of_accept {bytes restBytes : List UInt8} {code : Nat} {rest : Option Text}
    {text : Text} (accepted : accept bytes code rest = some text)
    (encodes : ∀ {tail : Text}, rest = some tail → encode tail = restBytes) :
    encode text = bytes ++ restBytes := by
  unfold accept at accepted
  split at accepted
  · next encoded =>
    obtain ⟨tail, decoded, rfl⟩ := Option.map_eq_some_iff.mp accepted
    simp [encode, encoded, ← encodes decoded]
  · simp at accepted

/-- What is decoded has the bytes it was decoded from. -/
theorem encode_of_decode {bytes : List UInt8} {text : Text}
    (decoded : decode bytes = some text) : encode text = bytes := by
  fun_induction decode bytes generalizing text with
  | case1 =>
    obtain rfl := Option.some.inj decoded
    rfl
  | case2 first rest _ inductionHypothesis =>
    exact encode_of_accept decoded inductionHypothesis
  | case3 => simp at decoded
  | case4 first second rest _ _ inductionHypothesis =>
    exact encode_of_accept decoded inductionHypothesis
  | case5 => simp at decoded
  | case6 first second third rest _ _ _ inductionHypothesis =>
    exact encode_of_accept decoded inductionHypothesis
  | case7 => simp at decoded
  | case8 first second third fourth rest _ _ _ inductionHypothesis =>
    exact encode_of_accept decoded inductionHypothesis

/-- The encoding of a letter is accepted with the code of the letter. -/
theorem accept_encoding {bytes : List UInt8} {code : Nat} {letter : Char} {rest : Option Text}
    (encoded : String.utf8EncodeChar letter = bytes) (coded : code = letter.toNat) :
    accept bytes code rest = rest.map (letter :: ·) := by
  subst coded
  simp [accept, encoded]

/-- A letter is decoded from its encoding, whatever follows it. -/
theorem decode_encodeLetter (letter : Char) (bytes : List UInt8) :
    decode (String.utf8EncodeChar letter ++ bytes) = (decode bytes).map (letter :: ·) := by
  have code : letter.toNat = letter.val.toNat := rfl
  have bound : letter.val.toNat < 0x110000 := by
    rcases letter.valid with below | ⟨_, below⟩
    · exact Nat.lt_trans below (by decide)
    · exact below
  have encoded : String.utf8EncodeChar letter = String.utf8EncodeChar letter := rfl
  conv at encoded => rhs; rw [String.utf8EncodeChar]
  split at encoded
  · rw [encoded]
    simp only [List.cons_append, List.nil_append]
    rw [decode.eq_def]
    dsimp only
    rw [if_pos]
    · apply accept_encoding encoded
      rw [code, UInt8.toNat_ofNat']
      omega
    · rw [UInt8.lt_iff_toNat_lt, UInt8.toNat_ofNat']
      simp
      omega
  split at encoded
  · rw [encoded]
    simp only [List.cons_append, List.nil_append]
    rw [decode.eq_def]
    dsimp only
    rw [if_neg, if_pos]
    · apply accept_encoding encoded
      simp only [payload, UInt8.toNat_ofNat', code]
      omega
    all_goals
      rw [UInt8.lt_iff_toNat_lt, UInt8.toNat_ofNat']
      simp
      omega
  split at encoded
  · rw [encoded]
    simp only [List.cons_append, List.nil_append]
    rw [decode.eq_def]
    dsimp only
    rw [if_neg, if_neg, if_pos]
    · apply accept_encoding encoded
      simp only [payload, UInt8.toNat_ofNat', code]
      omega
    all_goals
      rw [UInt8.lt_iff_toNat_lt, UInt8.toNat_ofNat']
      simp
      omega
  · rw [encoded]
    simp only [List.cons_append, List.nil_append]
    rw [decode.eq_def]
    dsimp only
    rw [if_neg, if_neg, if_neg]
    · apply accept_encoding encoded
      simp only [payload, UInt8.toNat_ofNat', code]
      omega
    all_goals
      rw [UInt8.lt_iff_toNat_lt, UInt8.toNat_ofNat']
      simp
      omega

/-- Every text is decoded from its bytes. -/
theorem decode_encode (text : Text) : decode (encode text) = some text := by
  induction text with
  | nil => rfl
  | cons letter rest inductionHypothesis =>
    have split : encode (letter :: rest) = String.utf8EncodeChar letter ++ encode rest := rfl
    rw [split, decode_encodeLetter, inductionHypothesis, Option.map_some]

/-- Bytes decode to a text exactly when they are its encoding. -/
theorem decode_eq_some_iff {bytes : List UInt8} {text : Text} :
    decode bytes = some text ↔ encode text = bytes :=
  ⟨encode_of_decode, fun encoded => encoded ▸ decode_encode text⟩

end BootManual.Utf8
