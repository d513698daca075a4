/-!
Positions in a text. A mark counts lines and columns from zero; every character is one column wide,
and only a line break starts a new line.
-/
namespace MachineOperator.Yaml

structure Mark where
  line : Nat
  column : Nat
deriving DecidableEq, Inhabited

namespace Mark

def origin : Mark := ⟨0, 0⟩

/-- The mark after a character that is no line break. -/
def next (m : Mark) : Mark := ⟨m.line, m.column + 1⟩

/-- The mark after a line break. -/
def newline (m : Mark) : Mark := ⟨m.line + 1, 0⟩

def advance (m : Mark) : Nat → Mark
  | 0 => m
  | n + 1 => m.next.advance n

/-- Readers count lines and columns from one. -/
def describe (m : Mark) : String :=
  s!"line {m.line + 1} column {m.column + 1}"

@[simp] theorem next_line (m : Mark) : m.next.line = m.line := rfl
@[simp] theorem next_column (m : Mark) : m.next.column = m.column + 1 := rfl
@[simp] theorem newline_line (m : Mark) : m.newline.line = m.line + 1 := rfl
@[simp] theorem newline_column (m : Mark) : m.newline.column = 0 := rfl

end Mark
end MachineOperator.Yaml
