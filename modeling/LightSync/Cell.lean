import LightSync.NameSet

/-!
# Desired values and their confirmation

A cell holds the value that is wanted on the bridge and remembers whether the bridge has confirmed
it. Wanting another value makes the cell dirty; only a confirmation of exactly the value it holds
makes it clean again, so a value that changed while its write was under way is not lost. A change
is major if there was no value before, or one further away than `majorThreshold`: major changes are
sent as slow fades.

## Main definitions

- `Drift`: when a change counts as major
- `Cell`, with `set`, `reset`, `clean` and `acknowledge`
- `Cell.insert`, `Cell.remove`: single members of a cell that holds a set
-/

namespace LightSync

/-- Largest difference between two numbers that still counts as a minor change. -/
def majorThreshold : Nat := 10

/-- Whether going from an earlier value, if there was one, to a new one is a major change. -/
class Drift (α : Type) where
  isMajor : Option α → α → Bool

/-- Is the change between two integers, the first of which may be missing, a major one? -/
def isMajorChange (before : Option Int) (after : Int) : Bool :=
  match before with
  | none => true
  | some before => majorThreshold < (before - after).natAbs

instance : Drift UInt8 := ⟨fun before after => isMajorChange (before.map (·.toNat)) after.toNat⟩
instance : Drift UInt16 := ⟨fun before after => isMajorChange (before.map (·.toNat)) after.toNat⟩
instance : Drift UInt32 := ⟨fun before after => isMajorChange (before.map (·.toNat)) after.toNat⟩
instance : Drift Int32 := ⟨fun before after => isMajorChange (before.map (·.toInt)) after.toInt⟩

/-- A change of membership is never major. -/
instance : Drift NameSet := ⟨fun _ _ => false⟩

/-- A desired value together with what is known about its confirmation. -/
structure Cell (α : Type) where
  value : Option α
  dirty : Bool
  major : Bool
deriving DecidableEq

namespace Cell

variable {α : Type}

def empty : Cell α := ⟨none, false, false⟩

instance : Inhabited (Cell α) := ⟨empty⟩

/-- A clean cell holding what the bridge reports. -/
def confirmed (value : α) : Cell α := ⟨some value, false, false⟩

/-- Replaces the value and makes the cell dirty whatever it held, without a major change. -/
def reset (_ : Cell α) (value : α) : Cell α := ⟨some value, true, false⟩

/-- Takes the value that the cell holds as confirmed. -/
def clean (c : Cell α) : Cell α := { c with dirty := false, major := false }

/-- Wants a new value. Says whether that changed anything. -/
def set [DecidableEq α] [Drift α] (c : Cell α) (value : α) : Cell α × Bool :=
  if c.value = some value then (c, false)
  else (⟨some value, true, Drift.isMajor c.value value⟩, true)

/-- Cleans the cell if the confirmed value is the one it holds. Says whether it did. -/
def acknowledge [DecidableEq α] (c : Cell α) (value : α) : Cell α × Bool :=
  if c.value = some value then (c.clean, true) else (c, false)

/-- The value, with a star if it is not confirmed. -/
def display (showValue : α → String) (c : Cell α) : String :=
  (match c.value with
  | some v => showValue v
  | none => "None") ++ if c.dirty then "*" else ""

/-! ## Cells holding sets -/

/-- The members wanted, none if there never was a set. -/
def members (c : Cell NameSet) : NameSet := c.value.getD ∅

def contains (c : Cell NameSet) (name : String) : Bool := c.members.contains name

def isEmpty (c : Cell NameSet) : Bool := c.members.isEmpty

/-- Wants one more member. Says whether it is new. -/
def insert (c : Cell NameSet) (name : String) : Cell NameSet × Bool :=
  if name ∈ c.members then (c, false)
  else ({ c with value := some (c.members.insert name), dirty := true }, true)

/-- Wants a member no longer. Says whether it was one. -/
def remove (c : Cell NameSet) (name : String) : Cell NameSet × Bool :=
  if name ∈ c.members then ({ c with value := some (c.members.erase name), dirty := true }, true)
  else (c, false)

end Cell
end LightSync
