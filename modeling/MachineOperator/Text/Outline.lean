/-!
Values shown by their parts, on one line: a name, and the fields with their values in braces.
-/
namespace MachineOperator.Text

def outlineFields (fields : List (String × String)) : String :=
  String.intercalate ", " (fields.map fun (name, value) => name ++ ": " ++ value)

def outline (name : String) (fields : List (String × String)) : String :=
  name ++ " \x7b " ++ outlineFields fields ++ " \x7d"

end MachineOperator.Text
