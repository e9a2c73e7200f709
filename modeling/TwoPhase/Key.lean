/-!
# Keys

A key marks everything one extension generates, so that the half of the extension that fills
bodies can recognise what the other half declared. Keys are minted by a supply that counts,
so no two of them are equal; the label is only for people to read and takes no part in telling
keys apart.
-/

namespace TwoPhase

/-- The mark of one extension. -/
structure Key where
  /-- The position in the order of minting. -/
  serial : Nat
  /-- What a diagnostic calls the extension. -/
  label : String
deriving DecidableEq, Repr

/-- Where keys come from: the serial number of the next one. -/
structure KeySupply where
  next : Nat
deriving DecidableEq, Repr, Inhabited

namespace KeySupply

/-- The supply that has minted nothing yet. -/
def initial : KeySupply := ⟨0⟩

/-- Mints a key with the given label. -/
def mint (supply : KeySupply) (label : String) : Key × KeySupply :=
  (⟨supply.next, label⟩, ⟨supply.next + 1⟩)

end KeySupply
end TwoPhase
