import MachineOperator.Event

/-!
Which events are logged. A filter is a list of directives; of those for an event's source the one that names it most
closely decides, and without any the event is not logged.
-/
namespace MachineOperator.Event

/-- The events of a source that are logged: those up to a level, or none. -/
structure Directive where
  source : Option String
  limit : Option Level
deriving DecidableEq

/-- A level by its name in any case, or by its rank. -/
def limit? (name : String) : Option (Option Level) :=
  match String.ofList (name.toList.map Char.toLower) with
  | "off" | "0" => some none
  | "error" | "1" => some (some .error)
  | "warn" | "2" => some (some .warn)
  | "info" | "3" => some (some .info)
  | "debug" | "4" => some (some .debug)
  | "trace" | "5" => some (some .trace)
  | _ => none

namespace Directive

def isSourceChar (c : Char) : Bool := c.isAlphanum || c == '_' || c == ':' || c == '-' || 127 < c.toNat

/-- A level for everything, a source for all its events, or a source with its level. -/
def parse? (text : String) : Option Directive :=
  match limit? text with
  | some limit => some ⟨none, limit⟩
  | none =>
    let (source, rest) := text.toList.span isSourceChar
    if source.isEmpty then none
    else
      match rest with
      | [] => some ⟨some (String.ofList source), some .trace⟩
      | '=' :: level =>
        if level.isEmpty then some ⟨some (String.ofList source), some .trace⟩
        else (limit? (String.ofList level)).map fun limit => ⟨some (String.ofList source), limit⟩
      | _ => none

def applies (d : Directive) (e : Event) : Bool := (d.source.getD "").isPrefixOf e.source

def closeness (d : Directive) : Nat := (d.source.map fun s => s.utf8ByteSize + 1).getD 0

end Directive

structure Filter where
  directives : List Directive
deriving DecidableEq

namespace Filter

/-- Directives between commas. -/
def parse? (text : String) : Option Filter :=
  (((text.toList.splitOn ',').filter (!·.isEmpty)).mapM fun cs => Directive.parse? (String.ofList cs)).map Filter.mk

def standard : Filter := ⟨[⟨none, some .info⟩, ⟨some "mao_config_generator", some .debug⟩]⟩

/-- What stands in the variable, if it can be read. -/
def ofVariable : Option ByteArray → Filter
  | none => standard
  | some data => ((String.fromUTF8? data).bind parse?).getD standard

/-- The directive that decides; of two that name the same source it is the later one. -/
def deciding? (f : Filter) (e : Event) : Option Directive :=
  f.directives.foldl (fun best d =>
    if d.applies e && (best.all fun b => b.closeness ≤ d.closeness) then some d else best) none

def shows (f : Filter) (e : Event) : Bool :=
  match f.deciding? e with
  | some ⟨_, some limit⟩ => e.level.rank ≤ limit.rank
  | _ => false

end Filter

def filterVariable : String := "RUST_LOG"

end MachineOperator.Event
