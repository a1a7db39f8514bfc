import Patchbay.Decimal.Literal
import Patchbay.Identifier

/-! Number literals: an integer written in decimal reads back as itself, and of all texts that start
like an identifier only the words for infinity and for no number are literals. -/

namespace Patchbay

/-- The byte of a digit. -/
def digitByte (d : Nat) : UInt8 := UInt8.ofNat (48 + d)

/-- The character of a digit is written as its byte. -/
theorem utf8_digitChar {n : Nat} (small : n < 10) :
    String.utf8EncodeChar (Nat.digitChar n) = [digitByte n] := by
  -- There are ten digits to look at.
  have each : ∀ n < 10, String.utf8EncodeChar (Nat.digitChar n) = [digitByte n] := by decide
  exact each n small

/-- The characters of a number in decimal are its digits. -/
theorem toList_toString (n : Nat) : (toString n).toList = Nat.toDigits 10 n := by
  -- The text is made of the digits.
  simp [ToString.toString, Nat.repr]

/-- A number below ten is written as its digit. -/
theorem natText_of_lt {n : Nat} (small : n < 10) : natText n = [digitByte n] := by
  -- There is one digit.
  rw [natText, utf8, toList_toString, Nat.toDigits_of_lt_base small, List.flatMap_singleton,
    utf8_digitChar small]

/-- A larger number is written as its tenth part, followed by its last digit. -/
theorem natText_of_le {n : Nat} (large : 10 ≤ n) :
    natText n = natText (n / 10) ++ [digitByte (n % 10)] := by
  -- The last digit comes behind those of the tenth part.
  rw [natText, natText, utf8, utf8, toList_toString, toList_toString,
    Nat.toDigits_of_base_le (by decide) large, List.flatMap_append, List.flatMap_singleton,
    utf8_digitChar (Nat.mod_lt n (by decide))]

/-- A negative integer is written with a dash in front. -/
theorem intText_negSucc (n : Nat) : intText (Int.negSucc n) = 45 :: natText (n + 1) := by
  -- The text of a negative number is made of a dash and the number without its sign.
  have split : (toString (Int.negSucc n)).toList = '-' :: (toString (n + 1)).toList := by
    show ("-" ++ toString (n + 1)).toList = _
    simp
  rw [intText, natText, utf8, utf8, split, List.flatMap_cons]
  rfl

/-- A number in decimal has a digit, and nothing but digits. -/
theorem natText_digits (n : Nat) : natText n ≠ [] ∧ ∀ b ∈ natText n, ∃ d < 10, b = digitByte d := by
  -- The induction takes the last digit away.
  induction n using Nat.strongRecOn with
  | ind n ih =>
    rcases Nat.lt_or_ge n 10 with small | large
    · rw [natText_of_lt small]
      refine ⟨by simp, ?_⟩
      intro b member
      exact ⟨n, small, List.mem_singleton.mp member⟩
    · rw [natText_of_le large]
      refine ⟨by simp, ?_⟩
      intro b member
      rcases List.mem_append.mp member with earlier | last
      · exact (ih (n / 10) (by omega)).2 b earlier
      · exact ⟨n % 10, Nat.mod_lt n (by decide), List.mem_singleton.mp last⟩

/-- A byte that opens identifiers is none of those that do not. -/
theorem ne_of_opens {b c : UInt8} (opens : opensIdentifier b = true)
    (closed : opensIdentifier c = false) : b ≠ c := by
  -- The same byte cannot do both.
  intro same
  rw [same, closed] at opens
  cases opens

namespace Decimal

/-- The byte of a digit is read as that digit. -/
theorem digit?_digitByte {d : Nat} (small : d < 10) : digit? (digitByte d) = some d := by
  -- There are ten digits to look at.
  have each : ∀ d < 10, digit? (digitByte d) = some d := by decide
  exact each d small

/-- The digits of a number give the number. -/
theorem readDigits_natText (n : Nat) :
    (natText n).foldlM (fun n b => (digit? b).map (n * 10 + ·)) 0 = some n := by
  -- Each digit is added to ten times what those before it give.
  induction n using Nat.strongRecOn with
  | ind n ih =>
    rcases Nat.lt_or_ge n 10 with small | large
    · rw [natText_of_lt small]
      simp [digit?_digitByte small]
    · rw [natText_of_le large, List.foldlM_append, ih (n / 10) (by omega)]
      have last : n % 10 < 10 := Nat.mod_lt n (by decide)
      have whole : n / 10 * 10 + n % 10 = n := by omega
      simp [digit?_digitByte last, whole]

/-- A digit is no sign. -/
theorem splitSign_natText (n : Nat) : splitSign (natText n) = (false, false, natText n) := by
  -- The text starts with a digit, and none of the ten is a sign.
  obtain ⟨nonempty, digits⟩ := natText_digits n
  obtain ⟨first, rest, split⟩ := List.exists_cons_of_ne_nil nonempty
  obtain ⟨d, small, same⟩ := digits first (by simp [split])
  have each : ∀ d < 10, digitByte d ≠ byte '-' ∧ digitByte d ≠ byte '+' := by decide
  obtain ⟨minus, plus⟩ := each d small
  simp only [split, splitSign, same, minus, plus, if_false]

/-- A number in decimal reads back as itself. -/
theorem readInteger_natText (n : Nat) : readInteger (natText n) = some (n : Int) := by
  -- There is no sign to split off, and the digits read back.
  have nonempty : (natText n).isEmpty = false := by simpa using (natText_digits n).1
  simp [readInteger, splitSign_natText, nonempty, readDigits_natText]

/-- A number in decimal with a dash in front reads back as its negative. -/
theorem readInteger_negative (n : Nat) : readInteger (45 :: natText n) = some (-(n : Int)) := by
  -- The dash is split off, and the digits read back.
  have nonempty : (natText n).isEmpty = false := by simpa using (natText_digits n).1
  have split : splitSign (45 :: natText n) = (true, true, natText n) := rfl
  simp [readInteger, split, nonempty, readDigits_natText]

/-- An integer in decimal reads back as itself. -/
theorem readInteger_intText (n : Int) : readInteger (intText n) = some n := by
  -- The sign of the number decides how its text starts.
  cases n with
  | ofNat n => exact readInteger_natText n
  | negSucc n =>
    rw [intText_negSucc, readInteger_negative]
    rfl

/-- An integer of 64 bits in decimal reads back as itself. -/
theorem readWord_intText {n : Int} (fits : fitsWord n = true) : readWord (intText n) = some n := by
  -- The number reads back and passes the bounds of 64 bits.
  simp [readWord, readInteger_intText, fits]

/-- The words for numbers that have no digits, in lower case. -/
def numberWords : List Bytes := [utf8 "inf", utf8 "infinity", utf8 "nan"]

/-- Whether a text is one of the words for numbers, in any mix of cases. -/
def spellsNumber (text : Bytes) : Bool := numberWords.contains (text.map lowerByte)

/-- The first underscore of a literal stands behind a digit. -/
theorem underscoresPlaced_underscore (rest : Bytes) : underscoresPlaced (95 :: rest) = false := by
  -- In front of it there is no digit.
  simp [underscoresPlaced, underscoresFrom, digit?, byte]

/-- A letter is no digit. -/
theorem digit?_of_isLetter {b : UInt8} (letter : isLetter b = true) : digit? b = none := by
  simp only [isLetter, digit?, Bool.or_eq_true, Bool.and_eq_true, decide_eq_true_eq,
    UInt8.le_iff_toNat_le] at letter ⊢
  -- The letters of both cases lie above the digits.
  apply if_neg
  simp only [UInt8.reduceToNat] at letter ⊢
  omega

/-- No literal of digits starts with a letter. -/
theorem readMagnitude_letter {b : UInt8} (letter : isLetter b = true) (rest : Bytes) :
    readMagnitude (b :: rest) = none := by
  have noDigit := digit?_of_isLetter letter
  have other : ∀ c, isLetter c = false → b ≠ c := by
    intro c noLetter same
    rw [same, noLetter] at letter
    cases letter
  have underscore : b ≠ byte '_' := other _ rfl
  have point : b ≠ byte '.' := other _ rfl
  have zero : b ≠ 48 := other _ rfl
  -- Reading digits stops at once, so that there is not a single one.
  have stops : ∀ rest, readMantissa 10 digit? ⟨0, 0, false, false⟩ (b :: rest) =
      (⟨0, 0, false, false⟩, b :: rest) := by
    intro rest
    simp [readMantissa, noDigit, underscore, point]
  -- Only a text of three bytes or more can be hexadecimal, and it would have to start with a zero.
  rcases rest with _ | ⟨second, _ | ⟨third, rest⟩⟩
  · simp [readMagnitude, stops]
  · simp [readMagnitude, stops]
  · simp [readMagnitude, stops, zero]

/-- No literal of digits starts with an underscore. -/
theorem readMagnitude_underscore (rest : Bytes) : readMagnitude (95 :: rest) = none := by
  -- Whatever digits and exponent follow, the underscore is not well placed.
  have first : byte '_' = 95 := rfl
  have misplaced : ((95 :: rest).contains 95 && !underscoresPlaced (95 :: rest)) = true := by
    simp [underscoresPlaced_underscore]
  simp only [readMagnitude, first, misplaced, ↓reduceIte, Option.bind_eq_bind, Option.bind_none,
    Option.bind_fun_none, ite_self, ite_eq_left_iff]
  intro _
  split <;> rfl

/-- No literal of digits starts like an identifier. -/
theorem readMagnitude_of_opens {b : UInt8} (opens : opensIdentifier b = true) (rest : Bytes) :
    readMagnitude (b :: rest) = none := by
  -- A letter and an underscore are refused for different reasons.
  rcases Bool.or_eq_true_iff.mp opens with letter | underscore
  · exact readMagnitude_letter letter rest
  · rw [eq_of_beq underscore]
    exact readMagnitude_underscore rest

/-- What starts like an identifier has no sign. -/
theorem splitSign_of_opens {b : UInt8} (opens : opensIdentifier b = true) (rest : Bytes) :
    splitSign (b :: rest) = (false, false, b :: rest) := by
  -- Neither sign opens an identifier.
  have minus : b ≠ byte '-' := ne_of_opens opens rfl
  have plus : b ≠ byte '+' := ne_of_opens opens rfl
  simp only [splitSign, minus, plus, if_false]

/-- A text that starts like an identifier is a literal exactly when it is one of the words for
numbers. -/
theorem readSingle_of_opens {b : UInt8} (opens : opensIdentifier b = true) (rest : Bytes) :
    (readSingle (b :: rest)).isSome = spellsNumber (b :: rest) := by
  -- Without a sign and digits only the three words are left to compare with.
  simp only [readSingle, readNumber, splitSign_of_opens opens, readMagnitude_of_opens opens,
    spellsNumber, numberWords]
  generalize (b :: rest).map lowerByte = word
  by_cases infinite : word = utf8 "inf" ∨ word = utf8 "infinity"
  · rcases infinite with rfl | rfl <;> rfl
  · by_cases undefined : word = utf8 "nan"
    · subst undefined
      rfl
    · simp [infinite, undefined]

end Decimal

end Patchbay
