import Patchbay.Text.Quote

/-! Rates: how often a signal is computed. -/

namespace Patchbay

/-- A rate by its code. Four codes are rates; any other one is carried along until it is checked. -/
structure Rate where
  code : UInt8
  deriving DecidableEq, Repr, Inhabited

namespace Rate

/-- Computed once, at the start. -/
def scalar : Rate := ⟨0⟩

/-- Computed once per control period. -/
def control : Rate := ⟨1⟩

/-- Computed for every sample. -/
def audio : Rate := ⟨2⟩

/-- Computed when asked for. -/
def demand : Rate := ⟨3⟩

/-- Whether the code is one of the four rates. -/
def valid (rate : Rate) : Bool := rate.code ≤ 3

/-- The name of a rate; an invalid one is written by its code. -/
def name (rate : Rate) : Bytes :=
  if rate = scalar then "scalar"
  else if rate = control then "control"
  else if rate = audio then "audio"
  else if rate = demand then "demand"
  else "rate(" ++ natText rate.code.toNat ++ ")"

/-- Reads a rate: its name in lower or upper case, or its two-letter form. -/
def parse? (text : Bytes) : Option Rate :=
  if text = utf8 "scalar" || text = utf8 "ir" || text = utf8 "SCALAR" then some scalar
  else if text = utf8 "control" || text = utf8 "kr" || text = utf8 "CONTROL" then some control
  else if text = utf8 "audio" || text = utf8 "ar" || text = utf8 "AUDIO" then some audio
  else if text = utf8 "demand" || text = utf8 "dr" || text = utf8 "DEMAND" then some demand
  else none

/-- The complaint about a text that is no rate. -/
def unknownText (text : Bytes) : Bytes := "unknown rate " ++ Text.quote text

end Rate

end Patchbay
