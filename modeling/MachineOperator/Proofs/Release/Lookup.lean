import MachineOperator.Proofs.Http
import MachineOperator.Settings

/-!
Lookups of images only ask servers and report events, however they end.
-/
namespace MachineOperator

namespace Release

theorem Server.inquires_fetch [Url.NameRules] (operation : Operation) (address : String)
    (decode : List UInt8 → Except Json.Error α) : Inquires (Server.fetch (m := StateM World) operation address decode).run := by
  unfold Server.fetch
  refine (Inquires.lift (Http.inquires_get address)).chain fun answer => ?_
  cases answer with
  | error failure => exact .throw _
  | ok found =>
    obtain ⟨url, response⟩ := found
    dsimp only
    split
    · exact .throw _
    · cases decode response.document with
      | error cause => exact .throw _
      | ok a => exact .pure _

theorem Server.inquires_resolver [Url.NameRules] (s : Server) (channel region : String) :
    Inquires (s.resolver (m := StateM World) channel region).run := by
  unfold Server.resolver
  refine (inquires_fetch _ _ _).chain fun index => ?_
  cases index.latest? with
  | none => exact .throw _
  | some build =>
    refine (Inquires.lift (.report _)).chain fun _ => (inquires_fetch _ _ _).chain fun found => ?_
    cases found.imageIn? region with
    | none => exact .throw _
    | some image => exact (Inquires.lift (.report _)).chain fun _ => .pure _

end Release

theorem ImageSource.inquires_resolver [Url.NameRules] (source : ImageSource) (channel region : String) :
    Inquires (source.resolver (m := StateM World) channel region).run := by
  cases source with
  | fixed images => exact .pure _
  | server s => exact s.inquires_resolver channel region

end MachineOperator
