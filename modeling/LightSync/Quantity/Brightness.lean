import LightSync.Decimal.Dyadic
import LightSync.Json.Record

/-!
# Brightness on the bridge's scale

A bridge takes brightness values from 3 to 254. Home platforms count up to 255, so their values
are clamped on the way in.

## Main definitions

- `Brightness`: a brightness as it is sent
- `Brightness.create?`, `Brightness.clamped`: by refusal and by clamping
-/

namespace LightSync

/-- A brightness as the bridge is told. -/
structure Brightness where
  value : UInt8
deriving DecidableEq, Repr

namespace Brightness

def least : UInt8 := 3
def greatest : UInt8 := 254

def full : Brightness := ⟨greatest⟩

instance : Inhabited Brightness := ⟨full⟩

/-- A value in the bridge's range. -/
def create? (value : UInt8) : Option Brightness :=
  if least ≤ value ∧ value ≤ greatest then some ⟨value⟩ else none

/-- Any integer, moved into the bridge's range. -/
def clamped (value : Int) : Brightness :=
  ⟨.ofNat (Decimal.clampInt 3 254 value).toNat⟩

theorem clamped_toNat (value : Int) :
    (clamped value).value.toNat = (Decimal.clampInt 3 254 value).toNat := by
  have lo := Decimal.le_clampInt value (show (3 : Int) ≤ 254 by decide)
  have hi := Decimal.clampInt_le value (show (3 : Int) ≤ 254 by decide)
  simp only [clamped, UInt8.toNat_ofNat']
  omega

theorem clamped_mem (value : Int) :
    3 ≤ (clamped value).value.toNat ∧ (clamped value).value.toNat ≤ 254 := by
  have lo := Decimal.le_clampInt value (show (3 : Int) ≤ 254 by decide)
  have hi := Decimal.clampInt_le value (show (3 : Int) ≤ 254 by decide)
  rw [clamped_toNat]
  omega

def toJson (b : Brightness) : Json := .obj [("value", .ofNat b.value.toNat)]

def ofJson? (j : Json) : Option Brightness := do
  let [value] ← j.slots? ["value"] | none
  return ⟨← value.required Json.uint8?⟩

end Brightness
end LightSync
