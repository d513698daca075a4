import MachineOperator.Generator
import MachineOperator.Proofs.Result
import MachineOperator.World

/-!
Programs in a world. Those that only ask servers and report events leave all else as it is, and what they give depends
on the servers alone.
-/
namespace MachineOperator

namespace World

/-- The world after an event is reported. -/
def reporting (w : World) (e : Event) : World := { w with events := w.events ++ [e] }

theorem run_read (w : World) (path : File.Path) :
    (FileSystem.read path : StateM World _).run w = (w.files.read path, w) := rfl

theorem run_createAll (w : World) (path : File.Path) :
    (FileSystem.createAll path : StateM World _).run w =
      ((w.files.createAll path).1, { w with files := (w.files.createAll path).2 }) := rfl

theorem run_write (w : World) (path : File.Path) (data : ByteArray) :
    (FileSystem.write path data : StateM World _).run w =
      match w.files.write path data with
      | .ok files => (.ok (), { w with files })
      | .error e => (.error e, w) := rfl

end World

/-! Asking servers and reporting events. -/

/-- What comes of asking: an answer, and the requests and events on the way to it. -/
structure Inquiry (α : Type) where
  answer : α
  asked : List Url
  told : List Event

def World.inquiring (w : World) (i : Inquiry α) : World :=
  { w with requests := w.requests ++ i.asked, events := w.events ++ i.told }

/-- A program that asks servers and reports events, and does nothing else: with the same servers it does the same in
every world. -/
def Inquires (x : StateM World α) : Prop :=
  ∀ network, ∃ i : Inquiry α, ∀ w : World, w.network = network → x.run w = (i.answer, w.inquiring i)

namespace Inquires
variable {x : StateM World α}

theorem pure (a : α) : Inquires (Pure.pure a) := fun _ =>
  ⟨⟨a, [], []⟩, fun w _ => by simp only [World.inquiring, List.append_nil]; rfl⟩

theorem bind {f : α → StateM World β} (first : Inquires x) (next : ∀ a, Inquires (f a)) : Inquires (x >>= f) := by
  intro network
  obtain ⟨i, same⟩ := first network
  obtain ⟨j, later⟩ := next i.answer network
  refine ⟨⟨j.answer, i.asked ++ j.asked, i.told ++ j.told⟩, fun w servers => ?_⟩
  rw [StateT.run_bind, same w servers]
  refine (later (w.inquiring i) servers).trans ?_
  simp only [World.inquiring, List.append_assoc]

theorem report (e : Event) : Inquires (Journal.report e) := fun _ =>
  ⟨⟨(), [], [e]⟩, fun w _ => by
    simp only [World.inquiring, List.append_nil]
    rfl⟩

/-- The answer depends on the servers alone. -/
theorem answer_eq (inquires : Inquires x) {w v : World} (servers : v.network = w.network) :
    (x.run v).1 = (x.run w).1 := by
  obtain ⟨i, same⟩ := inquires w.network
  rw [same v servers, same w rfl]

theorem result_eq {x : ExceptT ε (StateM World) α} (inquires : Inquires x.run) {w v : World}
    (servers : v.network = w.network) : (runFrom v x).1 = (runFrom w x).1 :=
  inquires.answer_eq servers

theorem files_eq {x : ExceptT ε (StateM World) α} (inquires : Inquires x.run) (w : World) :
    (runFrom w x).2.files = w.files := by
  obtain ⟨i, same⟩ := inquires w.network
  rw [runFrom, same w rfl]
  rfl

/-- Requests are remembered after those that were sent before. -/
theorem exists_requests {x : ExceptT ε (StateM World) α} (inquires : Inquires x.run) (w : World) :
    ∃ asked, (runFrom w x).2.requests = w.requests ++ asked := by
  obtain ⟨i, same⟩ := inquires w.network
  refine ⟨i.asked, ?_⟩
  rw [runFrom, same w rfl]
  rfl

/-! Programs that may fail ask and report as far as they come. -/

theorem map (f : α → β) (inquires : Inquires x) : Inquires (f <$> x) := by
  rw [← bind_pure_comp]
  exact inquires.bind fun a => pure (f a)

theorem throw (e : ε) : Inquires (ExceptT.run (MonadExcept.throw e : ExceptT ε (StateM World) α)) :=
  pure (Except.error e)

theorem lift (inquires : Inquires x) : Inquires (ExceptT.run (ExceptT.lift x : ExceptT ε (StateM World) α)) :=
  inquires.map Except.ok

theorem chain {x : ExceptT ε (StateM World) α} {f : α → ExceptT ε (StateM World) β} (first : Inquires x.run)
    (next : ∀ a, Inquires (f a).run) : Inquires (x >>= f).run := by
  rw [ExceptT.run_bind]
  refine first.bind fun result => ?_
  cases result with
  | error e => exact pure (Except.error e)
  | ok a => exact next a

theorem adapt {x : ExceptT ε (StateM World) α} (f : ε → ε') (inquires : Inquires x.run) : Inquires (x.adapt f).run :=
  inquires.map (Except.mapError f)

end Inquires
end MachineOperator
