import MachineOperator.Json.Number

/-!
Passing over a value that nobody needs: it has to be well-formed, but its strings need not be text.
-/
namespace MachineOperator.Json

/-- Past a key, the colon after it and the blanks before both. -/
def skipKey (rest : List UInt8) : Except Fault (List UInt8) := do
  match skipBlanks rest with
  | [] => fail .endInObject []
  | b :: r =>
    if b ≠ ascii '"' then fail .keyNoString r
    else
      match skipBlanks (← skipString r) with
      | [] => fail .endInObject []
      | b :: r => if b = ascii ':' then return r else fail .noColon r

mutual

/-- Past a value. -/
def skipValue : Nat → List UInt8 → Except Fault (List UInt8)
  | 0, rest => fail .endInValue rest
  | fuel + 1, rest =>
    match skipBlanks rest with
    | [] => fail .endInValue []
    | b :: r =>
      if b = ascii 'n' then expectWord ['u', 'l', 'l'] r
      else if b = ascii 't' then expectWord ['r', 'u', 'e'] r
      else if b = ascii 'f' then expectWord ['a', 'l', 's', 'e'] r
      else if b = ascii '-' then skipNumber r
      else if isDigit b then skipNumber (b :: r)
      else if b = ascii '"' then skipString r
      else if b = ascii '[' then
        match skipBlanks r with
        | [] => fail .endInList []
        | c :: s => if c = ascii ']' then .ok s else skipItems fuel (c :: s)
      else if b = ascii '{' then
        match skipBlanks r with
        | [] => fail .endInObject []
        | c :: s => if c = ascii '}' then .ok s else skipMembers fuel (c :: s)
      else fail .noValue r

/-- Past the items of a list, of which there is at least one, and its end. -/
def skipItems : Nat → List UInt8 → Except Fault (List UInt8)
  | 0, rest => fail .endInValue rest
  | fuel + 1, rest =>
    match skipValue fuel rest with
    | .error f => .error f
    | .ok rest =>
      match skipBlanks rest with
      | [] => fail .endInList []
      | b :: r =>
        if b = ascii ',' then skipItems fuel r
        else if b = ascii ']' then .ok r
        else fail .listSeparator r

/-- Past the members of an object, of which there is at least one, and its end. -/
def skipMembers : Nat → List UInt8 → Except Fault (List UInt8)
  | 0, rest => fail .endInValue rest
  | fuel + 1, rest =>
    match skipKey rest with
    | .error f => .error f
    | .ok rest =>
      match skipValue fuel rest with
      | .error f => .error f
      | .ok rest =>
        match skipBlanks rest with
        | [] => fail .endInObject []
        | b :: r =>
          if b = ascii ',' then skipMembers fuel r
          else if b = ascii '}' then .ok r
          else fail .objectSeparator r

end

/-- Every byte takes at most three steps. -/
def skip (rest : List UInt8) : Except Fault (List UInt8) := skipValue (3 * rest.length + 3) rest

end MachineOperator.Json
