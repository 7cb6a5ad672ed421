/-!
# Journal lines

What the program reports about its work, line by line, each with a level.
-/

namespace LightSync

/-- How much a line matters. -/
inductive Level where
  | warn
  | info
  | debug
deriving DecidableEq, Repr

namespace Level

def name : Level → String
  | warn => "WARN"
  | info => "INFO"
  | debug => "DEBUG"

/-- Lines of a lower rank matter more. -/
def rank : Level → Nat
  | warn => 0
  | info => 1
  | debug => 2

end Level

structure Line where
  level : Level
  text : String
deriving DecidableEq, Repr

namespace Line

def warn (text : String) : Line := ⟨.warn, text⟩
def info (text : String) : Line := ⟨.info, text⟩
def debug (text : String) : Line := ⟨.debug, text⟩

def display (l : Line) : String := s!"{l.level.name} {l.text}"

end Line
end LightSync
