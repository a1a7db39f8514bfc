import Patchbay.Fault.Basic

/-! Chains of errors: faults with causes of any kind, notes added in front, and several errors
joined. -/

namespace Patchbay

/-- An error as it reaches the outside. -/
inductive Chain where
  /-- An error that is only a text. -/
  | plain (text : Bytes)
  /-- One of the causes that faults have. -/
  | cause (cause : Cause)
  /-- A fault, which may lack a cause. -/
  | fault (fault : FaultOf Unit) (inner : Option Chain)
  /-- An error with a note in front. -/
  | noted (note : Bytes) (inner : Chain)
  /-- Several errors. -/
  | joined (parts : List Chain)
  deriving Inhabited

namespace Chain

mutual

/-- An error in words. -/
def message : Chain → Bytes
  | .plain text => text
  | .cause found => found.text
  | .fault outer inner => outer.place ++ ": " ++ innerMessage inner
  | .noted note inner => note ++ ": " ++ message inner
  | .joined parts => Bytes.join "\n" (messages parts)

/-- The cause of a fault in words. -/
def innerMessage : Option Chain → Bytes
  | none => "<nil>"
  | some inner => message inner

/-- Several errors in words. -/
def messages : List Chain → List Bytes
  | [] => []
  | part :: rest => message part :: messages rest

end

mutual

/-- The first fault of an error, outermost first and from the first part on. -/
def firstFault? : Chain → Option (FaultOf Unit × Option Chain)
  | .plain _ => none
  | .cause _ => none
  | .fault outer inner => some (outer, inner)
  | .noted _ inner => firstFault? inner
  | .joined parts => firstFaultOf? parts

/-- The first fault of several errors. -/
def firstFaultOf? : List Chain → Option (FaultOf Unit × Option Chain)
  | [] => none
  | part :: rest => (firstFault? part).orElse fun _ => firstFaultOf? rest

end

/-- The family of the first fault of an error. -/
def kind (error : Chain) : FaultKind :=
  match error.firstFault? with
  | some (outer, _) => outer.kind
  | none => .unknown

mutual

/-- Whether a cause is somewhere in an error. -/
def has (cause : Cause) : Chain → Bool
  | .plain _ => false
  | .cause found => found == cause
  | .fault _ inner => innerHas cause inner
  | .noted _ inner => has cause inner
  | .joined parts => anyHas cause parts

/-- Whether a cause is somewhere in the cause of a fault. -/
def innerHas (cause : Cause) : Option Chain → Bool
  | none => false
  | some inner => has cause inner

/-- Whether a cause is somewhere in several errors. -/
def anyHas (cause : Cause) : List Chain → Bool
  | [] => false
  | part :: rest => has cause part || anyHas cause rest

end

end Chain

/-- All causes, in their listing order. -/
def Cause.all : List Cause :=
  [.cycle, .nameTooLong, .tooMany, .danglingReference, .orderViolation, .unsupportedVariants,
    .badMagic, .badVersion, .truncated, .badReference, .badRate, .trailingData, .orphanControl,
    .unnamedControl]

end Patchbay
