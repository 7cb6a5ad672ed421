import LightSync.Decimal.Dyadic
import LightSync.Json.Record

/-!
# Color temperature in mirek

Valid values go from 153 (cool, about 6500 K) to 454 (warm, about 2200 K).

## Main definitions

- `ColorTemp`: a color temperature
- `ColorTemp.create?`, `ColorTemp.clamped`: by refusal and by clamping
-/

namespace LightSync

/-- A color temperature in mirek. -/
structure ColorTemp where
  mirek : UInt16
deriving DecidableEq, Repr

namespace ColorTemp

def least : UInt16 := 153
def greatest : UInt16 := 454

/-- A value in the valid range. -/
def create? (mirek : UInt16) : Option ColorTemp :=
  if least ≤ mirek ∧ mirek ≤ greatest then some ⟨mirek⟩ else none

/-- Any integer, moved into the valid range. -/
def clamped (mirek : Int) : ColorTemp :=
  ⟨.ofNat (Decimal.clampInt 153 454 mirek).toNat⟩

theorem clamped_toNat (mirek : Int) :
    (clamped mirek).mirek.toNat = (Decimal.clampInt 153 454 mirek).toNat := by
  have lo := Decimal.le_clampInt mirek (show (153 : Int) ≤ 454 by decide)
  have hi := Decimal.clampInt_le mirek (show (153 : Int) ≤ 454 by decide)
  simp only [clamped, UInt16.toNat_ofNat']
  omega

theorem clamped_mem (mirek : Int) :
    153 ≤ (clamped mirek).mirek.toNat ∧ (clamped mirek).mirek.toNat ≤ 454 := by
  have lo := Decimal.le_clampInt mirek (show (153 : Int) ≤ 454 by decide)
  have hi := Decimal.clampInt_le mirek (show (153 : Int) ≤ 454 by decide)
  rw [clamped_toNat]
  omega

/-- A value within the valid range is not moved. -/
theorem clamped_of_mem {mirek : UInt16} (mem : 153 ≤ mirek.toNat ∧ mirek.toNat ≤ 454) :
    (clamped mirek.toNat).mirek = mirek := by
  apply UInt16.toNat.inj
  rw [clamped_toNat, Decimal.clampInt_of_mem (by omega) (by omega), Int.toNat_natCast]

def toJson (t : ColorTemp) : Json := .obj [("mirek", .ofNat t.mirek.toNat)]

def ofJson? (j : Json) : Option ColorTemp := do
  let [mirek] ← j.slots? ["mirek"] | none
  return ⟨← mirek.required Json.uint16?⟩

end ColorTemp
end LightSync
