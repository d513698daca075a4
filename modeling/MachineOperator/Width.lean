/-!
The integers that fit into so many bits.
-/
namespace MachineOperator.Width

def fitsInt32 (n : Int) : Bool := -0x80000000 ≤ n && n < 0x80000000

def fitsInt64 (n : Int) : Bool := -0x8000000000000000 ≤ n && n < 0x8000000000000000

/-- With a sign or without one. -/
def fits64 (n : Int) : Bool := -0x8000000000000000 ≤ n && n < 0x10000000000000000

/-- With a sign or without one. -/
def fits128 (n : Int) : Bool :=
  -0x80000000000000000000000000000000 ≤ n && n < 0x100000000000000000000000000000000

end MachineOperator.Width
