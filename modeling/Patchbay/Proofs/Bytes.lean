import Mathlib.Data.List.Nodup
import Patchbay.Bytes

/-! Byte strings. The byte order is the order of lists by their first difference, and what is sorted
by it strictly ascends where no key is there twice. Cutting a text at a byte takes apart what
joining with that byte puts together. -/

namespace Patchbay.Bytes

/-- One byte string comes before another in the byte order when it is less as a list. -/
theorem less_iff_lt {a b : Bytes} : less a b = true ↔ a < b := by
  induction a generalizing b with
  | nil =>
    -- The empty string comes before all others.
    cases b with
    | nil => simp [less]
    | cons y ys => simp [less]
  | cons x xs ih =>
    cases b with
    | nil => simp [less]
    | cons y ys =>
      -- The first bytes decide, unless they are the same.
      simp [less, List.cons_lt_cons_iff, ih]

/-- A byte string does not come before another when it is not less than it as a list. -/
theorem less_eq_false_iff {a b : Bytes} : less a b = false ↔ b ≤ a := by
  -- The order of lists is total.
  rw [← Bool.not_eq_true, less_iff_lt, List.not_lt]

/-- The order for sorting is that of lists. -/
theorem notAfter_iff_le {a b : Bytes} : notAfter a b = true ↔ a ≤ b := by
  -- Not to come after is the other way round not to come before.
  rw [notAfter, Bool.not_eq_true', less_eq_false_iff]

/-- Items with distinct keys strictly ascend by them once they are sorted by them. -/
theorem sort_by_ascends {α : Type} (key : α → Bytes) {items : List α}
    (distinct : (items.map key).Nodup) :
    (items.mergeSort fun a b => notAfter (key a) (key b)).Pairwise fun a b => key a < key b := by
  -- Sorting only moves the items around, so that their keys stay distinct.
  have moved : ((items.mergeSort fun a b => notAfter (key a) (key b)).map key).Nodup :=
    ((List.mergeSort_perm items _).map key).nodup_iff.mpr distinct
  have sorted : (items.mergeSort fun a b => notAfter (key a) (key b)).Pairwise fun a b =>
      notAfter (key a) (key b) = true := by
    refine List.pairwise_mergeSort (fun a b c first second => ?_) (fun a b => ?_) items
    · rw [notAfter_iff_le] at first second ⊢
      exact List.le_trans first second
    · rw [Bool.or_eq_true, notAfter_iff_le, notAfter_iff_le]
      exact List.le_total (key a) (key b)
  -- Keys that are in order and not the same are in strict order.
  refine sorted.imp₂ ?_ (List.pairwise_map.mp moved)
  intro a b inOrder apart
  exact Std.lt_of_le_of_ne (notAfter_iff_le.mp inOrder) apart

section Pieces

variable {separator : UInt8}

/-- A separator starts a new piece. -/
@[simp] theorem splitOn_separator (text : Bytes) :
    splitOn separator (separator :: text) = [] :: splitOn separator text := by
  -- The split puts an empty piece in front.
  simp [splitOn]

/-- Any other byte belongs to the first piece. -/
theorem splitOn_cons {byte : UInt8} (other : byte ≠ separator) (text : Bytes) :
    splitOn separator (byte :: text) = (splitOn separator text).modifyHead (byte :: ·) := by
  -- The byte is put in front of what the rest starts with.
  simp [splitOn, other]

/-- There is always a first piece. -/
theorem splitOn_ne_nil (separator : UInt8) (text : Bytes) : splitOn separator text ≠ [] := by
  -- The split of any text is a first piece and others.
  simp [splitOn]

/-- The pieces around a separator are those before it and those after it. -/
theorem splitOn_append (before after : Bytes) :
    splitOn separator (before ++ separator :: after) = splitOn separator before ++
      splitOn separator after := by
  induction before with
  | nil => simp [splitOn]
  | cons byte before ih =>
    by_cases same : byte = separator
    · subst same
      rw [List.cons_append, splitOn_separator, splitOn_separator, ih, List.cons_append]
    · -- The byte goes to the front of the first piece, which stands before the separator.
      rw [List.cons_append, splitOn_cons same, splitOn_cons same, ih]
      obtain ⟨piece, pieces, split⟩ := List.exists_cons_of_ne_nil (splitOn_ne_nil separator before)
      simp [split]

/-- A text without separators is one piece. -/
theorem splitOn_of_notMem {text : Bytes} (whole : separator ∉ text) :
    splitOn separator text = [text] := by
  -- Each byte goes to the only piece.
  induction text with
  | nil => rfl
  | cons byte text ih =>
    rw [List.mem_cons, not_or] at whole
    rw [splitOn_cons (Ne.symm whole.1), ih whole.2, List.modifyHead_cons]

/-- No piece has a separator in it, and each of its bytes is one of the text. -/
theorem mem_of_mem_splitOn {text piece : Bytes} (cut : piece ∈ splitOn separator text) :
    separator ∉ piece ∧ ∀ byte ∈ piece, byte ∈ text := by
  -- A separator starts a piece of its own, and any other byte joins the first piece.
  induction text generalizing piece with
  | nil =>
    have empty : piece = [] := by simpa [splitOn] using cut
    simp [empty]
  | cons byte text ih =>
    by_cases same : byte = separator
    · subst same
      rw [splitOn_separator, List.mem_cons] at cut
      rcases cut with rfl | later
      · simp
      · exact ⟨(ih later).1, fun other inside => List.mem_cons_of_mem _ ((ih later).2 other inside)⟩
    · rw [splitOn_cons same] at cut
      obtain ⟨first, pieces, split⟩ := List.exists_cons_of_ne_nil (splitOn_ne_nil separator text)
      rw [split, List.modifyHead_cons, List.mem_cons] at cut
      rw [split] at ih
      rcases cut with rfl | later
      · have old := ih List.mem_cons_self
        grind
      · have old := ih (List.mem_cons_of_mem _ later)
        exact ⟨old.1, fun other inside => List.mem_cons_of_mem _ (old.2 other inside)⟩

/-- Cutting at a byte undoes joining with it, for parts that do not have it. -/
theorem splitOn_join {parts : List Bytes} (nonempty : parts ≠ [])
    (whole : ∀ part ∈ parts, separator ∉ part) :
    splitOn separator (join [separator] parts) = parts := by
  -- The first part is cut off whole, and the rest follows.
  induction parts with
  | nil => exact absurd rfl nonempty
  | cons part rest ih =>
    have first : splitOn separator part = [part] :=
      splitOn_of_notMem (whole part List.mem_cons_self)
    cases rest with
    | nil => exact first
    | cons next rest =>
      have later := ih (List.cons_ne_nil next rest) fun other inside =>
        whole other (List.mem_cons_of_mem _ inside)
      rw [join, List.append_assoc, List.singleton_append, splitOn_append, first, later,
        List.singleton_append]

/-- A byte of a joined text is the separator or comes from one of the parts. -/
theorem mem_join {parts : List Bytes} {byte : UInt8} (inside : byte ∈ join [separator] parts) :
    byte = separator ∨ ∃ part ∈ parts, byte ∈ part := by
  -- The text is the first part, a separator and the rest.
  induction parts with
  | nil => simp [join] at inside
  | cons part rest ih =>
    cases rest with
    | nil => exact .inr ⟨part, List.mem_cons_self, inside⟩
    | cons next rest =>
      simp only [join, List.mem_append, List.mem_singleton] at inside
      rcases inside with (first | between) | later
      · exact .inr ⟨part, List.mem_cons_self, first⟩
      · exact .inl between
      · refine (ih later).imp_right ?_
        intro ⟨other, listed, found⟩
        exact ⟨other, List.mem_cons_of_mem _ listed, found⟩

/-- A text without the separator is not cut. -/
theorem cut?_of_notMem {text : Bytes} (whole : separator ∉ text) : cut? separator text = none := by
  -- Each byte is passed over.
  induction text with
  | nil => rfl
  | cons byte rest ih =>
    have other : byte ≠ separator := (List.ne_of_not_mem_cons whole).symm
    simp [cut?, other, ih (List.not_mem_of_not_mem_cons whole)]

/-- A text is cut at its first separator. -/
theorem cut?_append {before : Bytes} (whole : separator ∉ before) (after : Bytes) :
    cut? separator (before ++ separator :: after) = some (before, after) := by
  -- The bytes in front of the separator are passed over.
  induction before with
  | nil => simp [cut?]
  | cons byte rest ih =>
    have other : byte ≠ separator := (List.ne_of_not_mem_cons whole).symm
    simp [cut?, other, ih (List.not_mem_of_not_mem_cons whole)]

end Pieces

end Patchbay.Bytes
