import Patchbay.Duration
import Patchbay.Text.Quote

/-! Checks of the fields of a record, which report every complaint and not only the first. -/

namespace Patchbay

/-- What can be wrong with a field. -/
inductive FieldProblem where
  | missing
  | below (value bound : Duration)
  | above (value bound : Duration)
  | unlisted (value : Bytes) (allowed : List Bytes)
  | other (text : Bytes)
  deriving DecidableEq, Repr

/-- What is wrong with a field, in words. -/
def FieldProblem.message : FieldProblem → Bytes
  | .missing => "required field is empty"
  | .below value bound => "duration " ++ value.text ++ " is below minimum " ++ bound.text
  | .above value bound => "duration " ++ value.text ++ " exceeds maximum " ++ bound.text
  | .unlisted value allowed =>
    "value " ++ Text.quote value ++ " must be one of [" ++ Bytes.join " " allowed ++ "]"
  | .other text => text

/-- A complaint about a field. -/
structure Complaint where
  field : Bytes
  problem : FieldProblem
  deriving DecidableEq, Repr

/-- The complaint that a check gives, if any. -/
abbrev Check := Option Complaint

namespace Check

/-- A check that complains under a condition. -/
def complainIf (condition : Bool) (field : Bytes) (problem : FieldProblem) : Check :=
  if condition then some ⟨field, problem⟩ else none

/-- The field has a text. -/
def required (field value : Bytes) : Check := complainIf value.isEmpty field .missing

/-- The duration is not below a bound. -/
def atLeast (field : Bytes) (value bound : Duration) : Check :=
  complainIf (value.nanoseconds < bound.nanoseconds) field (.below value bound)

/-- The duration is not above a bound. -/
def atMost (field : Bytes) (value bound : Duration) : Check :=
  complainIf (bound.nanoseconds < value.nanoseconds) field (.above value bound)

/-- The text is one of a list. -/
def oneOf (field value : Bytes) (allowed : List Bytes) : Check :=
  complainIf (!allowed.contains value) field (.unlisted value allowed)

/-- The field has no problem of its own. -/
def custom (field : Bytes) (problem : Option Bytes) : Check :=
  problem.map fun text => ⟨field, .other text⟩

/-- A check that is made only under a condition. -/
def onlyIf (condition : Bool) (check : Check) : Check := if condition then check else none

end Check

/-- The complaints about a record, in the order of the checks. -/
structure Complaints where
  record : Bytes
  complaints : List Complaint
  deriving DecidableEq, Repr

namespace Complaints

/-- The complaints of a list of checks. -/
def ofChecks (record : Bytes) (checks : List Check) : Complaints := ⟨record, checks.filterMap id⟩

/-- A complaint in words. -/
def line (record : Bytes) (complaint : Complaint) : Bytes :=
  record ++ "." ++ complaint.field ++ ": " ++ complaint.problem.message

/-- The complaints in words: a single one alone, and several under a heading. -/
def message? (found : Complaints) : Option Bytes :=
  match found.complaints.map (line found.record) with
  | [] => none
  | [only] => some only
  | several =>
    some (found.record ++ " validation failed with " ++ natText several.length ++ " errors: "
      ++ Bytes.join "\n" several)

end Complaints

/-- A text, or another one where it is empty. -/
def Bytes.orElse (text other : Bytes) : Bytes := if text.isEmpty then other else text

/-- A duration, or another one where it is not positive. -/
def Duration.orElse (duration other : Duration) : Duration :=
  if duration.nanoseconds ≤ 0 then other else duration

end Patchbay
