import Patchbay.Description.Check

/-! Valid descriptions: the rules that a description keeps are those of its entries, whatever their
order. -/

namespace Patchbay

/-- A name that the format holds. -/
def ShortName (text : Bytes) : Prop := text.length ≤ nameLimit

/-- A name under which a node or a parameter can be referred to. -/
structure GoodName (text : Bytes) : Prop where
  present : text ≠ []
  identifier : isIdentifier text = true
  short : ShortName text

/-- A number that the format holds in two bytes. -/
def ShortCount (n : Int) : Prop := 0 ≤ n ∧ n ≤ 65535

namespace Rule

/-- A name breaks no rule exactly when it is short. -/
theorem ofName_eq_none_iff {text : Bytes} : ofName text = none ↔ ShortName text := by
  -- The only rule is about the length.
  simp [ofName, ShortName]

/-- A name that must be there breaks no rule exactly when it is there and short. -/
theorem ofNeededName_eq_none_iff {text : Bytes} :
    ofNeededName text = none ↔ text ≠ [] ∧ ShortName text := by
  -- An empty name breaks the first rule, and behind it only the length counts.
  unfold ofNeededName
  split
  · rename_i empty
    simp [List.isEmpty_iff.mp empty]
  · rename_i given
    rw [ofName_eq_none_iff]
    exact (and_iff_right fun empty => given (by rw [empty]; rfl)).symm

/-- An identifier breaks no rule exactly when it is a good name. -/
theorem ofIdentifier_eq_none_iff {text : Bytes} : ofIdentifier text = none ↔ GoodName text := by
  -- The three rules are looked at in turn, and the first that is broken is told.
  unfold ofIdentifier
  split
  · rename_i empty
    simp only [reduceCtorEq, false_iff]
    exact fun good => good.present (List.isEmpty_iff.mp empty)
  · rename_i given
    split
    · rename_i identifier
      rw [ofName_eq_none_iff]
      exact ⟨fun short => ⟨fun empty => given (by rw [empty]; rfl), identifier, short⟩,
        fun good => good.short⟩
    · rename_i malformed
      simp only [reduceCtorEq, false_iff]
      exact fun good => malformed good.identifier

/-- A rate breaks no rule exactly when it is left out or can be read. -/
theorem ofRate_eq_none_iff {text : Bytes} :
    ofRate text = none ↔ text = [] ∨ ∃ rate, Rate.parse? text = some rate := by
  -- An empty text is let through, and any other has to be read.
  simp [ofRate, Option.isSome_iff_exists, Decidable.or_iff_not_imp_left]

/-- A rate that must be there breaks no rule exactly when it can be read. -/
theorem ofNeededRate_eq_none_iff {text : Bytes} :
    ofNeededRate text = none ↔ ∃ rate, Rate.parse? text = some rate := by
  unfold ofNeededRate
  split
  · -- No rate is written as an empty text.
    rename_i empty
    rw [List.isEmpty_iff.mp empty]
    simp only [reduceCtorEq, false_iff]
    rintro ⟨rate, read⟩
    revert read
    decide +revert
  · rename_i given
    rw [ofRate_eq_none_iff, or_iff_right]
    exact fun empty => given (by rw [empty]; rfl)

/-- A control operator breaks no rule exactly when it is left out or is one. -/
theorem ofControlOp_eq_none_iff {text : Bytes} :
    ofControlOp text = none ↔ text = [] ∨ isControlOp text = true := by
  -- An empty text is let through, and any other has to be an operator.
  simp [ofControlOp, Decidable.or_iff_not_imp_left]

/-- A number breaks no rule exactly when two bytes hold it. -/
theorem ofCount_eq_none_iff {n : Int} : ofCount n = none ↔ ShortCount n := by
  -- Both bounds are looked at, the lower one first.
  unfold ofCount ShortCount
  split
  · simp only [reduceCtorEq, false_iff]
    omega
  · split
    · simp only [reduceCtorEq, false_iff]
      omega
    · simp only [true_iff]
      omega

/-- A list breaks no rule exactly when it is there and has members. -/
theorem ofList_eq_none_iff {α : Type} {list : Option (List α)} :
    ofList list = none ↔ ∃ members, list = some members ∧ members ≠ [] := by
  -- There is no list, an empty one, or one with a first member.
  match list with
  | none => simp [ofList]
  | some [] => simp [ofList]
  | some (first :: rest) => simp [ofList]

end Rule

/-- A field breaks a rule at any place or at none. -/
@[simp] theorem brokenAt_eq_none_iff {place field : Bytes} {rule : Option Rule} :
    brokenAt place field rule = none ↔ rule = none := by
  -- The place is only added to the rule.
  simp [brokenAt]

/-- The first of two rules is not broken exactly when neither is. -/
@[simp] theorem firstOf_eq_none_iff {α : Type} {one two : Option α} :
    (one <|> two) = none ↔ one = none ∧ two = none := by
  -- The second rule is looked at only where the first is not broken.
  cases one <;> simp

/-- No member of a list breaks a rule exactly when all are valid. -/
theorem firstBroken_eq_none_iff {α : Type} {check : Bytes → α → Option Violation} {Valid : α → Prop}
    (checks : ∀ place member, check place member = none ↔ Valid member) {place : Bytes}
    {members : List α} :
    firstBroken check place members = none ↔ ∀ member ∈ members, Valid member := by
  -- The place that is told with a violation does not matter for whether there is one.
  simp only [firstBroken, List.findSome?_eq_none_iff, checks]
  constructor
  · intro valid member listed
    obtain ⟨n, here⟩ := List.mem_iff_getElem?.mp listed
    exact valid (member, n) (List.mem_zipIdx_iff_getElem?.mpr here)
  · exact fun valid item listed => valid item.1
      (List.mem_of_getElem? (List.mem_zipIdx_iff_getElem?.mp listed))

/-- A parameter with a good name. -/
def ParameterEntry.Valid (entry : ParameterEntry) : Prop := GoodName entry.name

/-- A group of valid parameters. -/
structure GroupEntry.Valid (entry : GroupEntry) : Prop where
  rate : entry.rate = [] ∨ ∃ rate, Rate.parse? entry.rate = some rate
  op : entry.op = [] ∨ isControlOp entry.op = true
  parameters : ∃ members, entry.parameters = some members ∧ members ≠ []
  each : ∀ parameter ∈ entry.parameters.getD [], parameter.Valid

/-- A node whose fields the format holds. -/
structure NodeEntry.Valid (entry : NodeEntry) : Prop where
  id : GoodName entry.id
  op : entry.op ≠ [] ∧ ShortName entry.op
  rate : ∃ rate, Rate.parse? entry.rate = some rate
  outputs : ∀ count, entry.outputs = some count → ShortCount count
  special : ShortCount entry.special

/-- A description of valid entries. -/
structure Description.Valid (description : Description) : Prop where
  name : ShortName description.name
  groups : ∀ entry ∈ description.controls, entry.Valid
  nodes : ∀ entry ∈ description.nodes, entry.Valid
  roots : ∃ members, description.roots = some members ∧ members ≠ []

/-- A parameter breaks no rule exactly when it is valid. -/
theorem ParameterEntry.check_eq_none_iff (place : Bytes) (entry : ParameterEntry) :
    entry.check place = none ↔ entry.Valid := by
  -- The name is all that is checked.
  rw [ParameterEntry.check, brokenAt_eq_none_iff, Rule.ofIdentifier_eq_none_iff]
  rfl

/-- A group breaks no rule exactly when it is valid. -/
theorem GroupEntry.check_eq_none_iff (place : Bytes) (entry : GroupEntry) :
    entry.check place = none ↔ entry.Valid := by
  -- The fields are checked in turn, and then each member.
  simp only [GroupEntry.check, firstOf_eq_none_iff, brokenAt_eq_none_iff, Rule.ofRate_eq_none_iff,
    Rule.ofControlOp_eq_none_iff, Rule.ofList_eq_none_iff,
    firstBroken_eq_none_iff ParameterEntry.check_eq_none_iff]
  exact ⟨fun ⟨rate, op, parameters, each⟩ => ⟨rate, op, parameters, each⟩,
    fun ⟨rate, op, parameters, each⟩ => ⟨rate, op, parameters, each⟩⟩

/-- A node breaks no rule exactly when it is valid. -/
theorem NodeEntry.check_eq_none_iff (place : Bytes) (entry : NodeEntry) :
    entry.check place = none ↔ entry.Valid := by
  -- The fields are checked in turn.
  simp only [NodeEntry.check, firstOf_eq_none_iff, brokenAt_eq_none_iff,
    Rule.ofIdentifier_eq_none_iff, Rule.ofNeededName_eq_none_iff, Rule.ofNeededRate_eq_none_iff,
    Option.bind_eq_none_iff, Rule.ofCount_eq_none_iff]
  exact ⟨fun ⟨id, op, rate, outputs, special⟩ => ⟨id, op, rate, outputs, special⟩,
    fun ⟨id, op, rate, outputs, special⟩ => ⟨id, op, rate, outputs, special⟩⟩

/-- A description breaks no rule exactly when it is valid. -/
theorem Description.check_eq_none_iff (description : Description) :
    description.check = none ↔ description.Valid := by
  -- The name, the groups, the nodes and the roots are checked in turn.
  simp only [Description.check, firstOf_eq_none_iff, brokenAt_eq_none_iff, Rule.ofName_eq_none_iff,
    Rule.ofList_eq_none_iff, firstBroken_eq_none_iff GroupEntry.check_eq_none_iff,
    firstBroken_eq_none_iff NodeEntry.check_eq_none_iff]
  exact ⟨fun ⟨name, groups, nodes, roots⟩ => ⟨name, groups, nodes, roots⟩,
    fun ⟨name, groups, nodes, roots⟩ => ⟨name, groups, nodes, roots⟩⟩

end Patchbay
