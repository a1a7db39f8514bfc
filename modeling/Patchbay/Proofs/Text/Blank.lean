import Patchbay.Text.Blank

/-! Trimming: a text of visible ASCII bytes has no white space to lose. -/

namespace Patchbay.Text

/-- An ASCII byte that is neither a control character nor the space. -/
def Visible (b : UInt8) : Prop := 0x20 < b ∧ b < 0x7F
  deriving Decidable

/-- The number of the character of an ASCII byte is the byte. -/
theorem toNat_ofNat_byte {b : UInt8} (ascii : b < 0x80) : (Char.ofNat b.toNat).toNat = b.toNat := by
  -- A number this small is that of a character.
  have small : b.toNat < 0x80 := UInt8.lt_iff_toNat_lt.mp ascii
  have valid : b.toNat.isValidChar := .inl (by omega)
  rw [Char.ofNat, dif_pos valid]
  rfl

/-- An ASCII byte is a character of its own. -/
theorem firstGlyph_of_ascii {b : UInt8} (ascii : b < 0x80) (rest : Bytes) :
    firstGlyph b rest = (charOfNat b.toNat, 0) := by
  -- The first branch is that of such bytes.
  unfold firstGlyph
  exact if_pos ascii

/-- The character of an ASCII byte is written as that byte. -/
theorem bytes_charOfNat {b : UInt8} (ascii : b < 0x80) : (charOfNat b.toNat).bytes = [b] := by
  -- A character with a number this small takes one byte.
  have small : b.toNat < 0x80 := UInt8.lt_iff_toNat_lt.mp ascii
  have number : (Char.ofNat b.toNat).val.toNat = b.toNat := toNat_ofNat_byte ascii
  show String.utf8EncodeChar (Char.ofNat b.toNat) = [b]
  simp only [String.utf8EncodeChar, number]
  rw [if_pos (by omega), UInt8.ofNat_toNat]

/-- A visible byte is no white space. -/
theorem isBlankGlyph_of_visible {b : UInt8} (visible : Visible b) :
    isBlankGlyph (charOfNat b.toNat) = false := by
  -- All white space has a smaller number or a greater one.
  have low : 0x20 < b.toNat := UInt8.lt_iff_toNat_lt.mp visible.1
  have high : b.toNat < 0x7F := UInt8.lt_iff_toNat_lt.mp visible.2
  have number : (Char.ofNat b.toNat).toNat = b.toNat :=
    toNat_ofNat_byte (UInt8.lt_trans visible.2 (by decide))
  simp only [charOfNat, isBlankGlyph, isBlank, number]
  simp
  omega

/-- A text of visible bytes is read as one character for each byte. -/
theorem glyphs_of_visible {text : Bytes} (visible : ∀ b ∈ text, Visible b) :
    glyphs text = text.map fun b => charOfNat b.toNat := by
  -- Each byte is read by itself, with nothing to skip.
  unfold glyphs
  induction text with
  | nil => rfl
  | cons b rest ih =>
    have ascii : b < 0x80 := UInt8.lt_trans (visible b List.mem_cons_self).2 (by decide)
    have further := ih fun other later => visible other (List.mem_cons_of_mem _ later)
    simp only [glyphsFrom, firstGlyph_of_ascii ascii, further, List.map_cons]

/-- The characters of visible bytes are written as these bytes. -/
theorem flatMap_bytes_of_visible {text : Bytes} (visible : ∀ b ∈ text, Visible b) :
    (text.map fun b => charOfNat b.toNat).flatMap Glyph.bytes = text := by
  -- Each character takes the one byte.
  induction text with
  | nil => rfl
  | cons b rest ih =>
    have ascii : b < 0x80 := UInt8.lt_trans (visible b List.mem_cons_self).2 (by decide)
    have further := ih fun other later => visible other (List.mem_cons_of_mem _ later)
    rw [List.map_cons, List.flatMap_cons, bytes_charOfNat ascii, further, List.singleton_append]

/-- Where no glyph is white space there is none to drop at the start. -/
theorem dropWhile_of_solid {glyphs : List Glyph}
    (solid : ∀ glyph ∈ glyphs, isBlankGlyph glyph = false) :
    glyphs.dropWhile isBlankGlyph = glyphs := by
  -- The first glyph already stops the dropping.
  cases glyphs with
  | nil => rfl
  | cons first rest =>
    apply List.dropWhile_cons_of_neg
    simp [solid first List.mem_cons_self]

/-- Trimming leaves a text of visible bytes as it is. -/
theorem trim_of_visible {text : Bytes} (visible : ∀ b ∈ text, Visible b) : trim text = text := by
  have solid : ∀ glyph ∈ text.map fun b => charOfNat b.toNat, isBlankGlyph glyph = false := by
    intro glyph member
    obtain ⟨b, inside, same⟩ := List.mem_map.mp member
    rw [← same]
    exact isBlankGlyph_of_visible (visible b inside)
  have start : trimStart text = text := by
    rw [trimStart, glyphs_of_visible visible, dropWhile_of_solid solid,
      flatMap_bytes_of_visible visible]
  -- From the end the same glyphs come in reverse.
  have backwards : ∀ glyph ∈ (text.map fun b => charOfNat b.toNat).reverse, isBlankGlyph glyph =
      false := by
    intro glyph member
    exact solid glyph (List.mem_reverse.mp member)
  have finish : trimEnd text = text := by
    rw [trimEnd, glyphs_of_visible visible, dropWhile_of_solid backwards, List.reverse_reverse,
      flatMap_bytes_of_visible visible]
  rw [trim, start, finish]

end Patchbay.Text
