import MachineOperator.InstallConfig
import MachineOperator.Proofs.Yaml.Schema

/-!
Specifications of clusters in documents. A specification is read from what is written for it.
-/
namespace MachineOperator
open Yaml

theorem map_map_of_inverse {f : α → β} {g : β → α} (inverse : ∀ a, g (f a) = a) (xs : Option (List α)) :
    (xs.map (List.map f)).map (List.map g) = xs := by
  cases xs <;> simp [inverse, Function.comp_def]

theorem ObjectMeta.ofCarrier_toCarrier (m : ObjectMeta) : ofCarrier m.toCarrier = m := by
  have managed := map_map_of_inverse ManagedFields.ofCarrier_toCarrier m.managedFields
  have owned := map_map_of_inverse OwnerReference.ofCarrier_toCarrier m.ownerReferences
  calc ofCarrier m.toCarrier
      = { m with
          managedFields :=
            (m.managedFields.map (List.map ManagedFields.toCarrier)).map (List.map ManagedFields.ofCarrier)
          ownerReferences :=
            (m.ownerReferences.map (List.map OwnerReference.toCarrier)).map (List.map OwnerReference.ofCarrier) } := rfl
    _ = m := by rw [managed, owned]

theorem legible_of_known {s : Schema} {x : s.Carrier} (known : s.isLegible = true) : s.Legible x :=
  s.legible_of_isLegible known x

/-- An option that is not there says nothing that could be lost. -/
theorem legible_none {s : Schema} {x : Option s.Carrier} (absent : x = none) : (Schema.optional s).Legible x := by
  subst absent
  intro y same
  cases same

/-- An empty list says all that it has to say. -/
theorem legible_some_nil {s : Schema} {x : Option (List s.Carrier)} (empty : ∀ items, x = some items → items = []) :
    (Schema.optional (.listOf s)).Legible x := by
  intro items there
  cases empty items there
  refine ⟨?_, Schema.toValue_ne_null (by simp) (by simp) _⟩
  intro item member
  cases member

/-- Metadata without instants and managers is legible. -/
theorem ObjectMeta.legible {m : ObjectMeta} (created : m.creationTimestamp = none)
    (deleted : m.deletionTimestamp = none)
    (managed : ∀ managers, m.managedFields = some managers → managers = []) : schema.Legible m.toCarrier := by
  have unmanaged : (Schema.optional (.listOf ManagedFields.schema)).Legible
      (m.managedFields.map (List.map ManagedFields.toCarrier)) := by
    apply legible_some_nil
    intro items there
    obtain ⟨managers, listed, rfl⟩ := Option.map_eq_some_iff.1 there
    rw [managed managers listed]
    rfl
  exact ⟨by decide, legible_of_known rfl, by decide, legible_none created, by decide, legible_of_known rfl,
    by decide, legible_none deleted, by decide, legible_of_known rfl, by decide, legible_of_known rfl,
    by decide, legible_of_known rfl, by decide, legible_of_known rfl, by decide, unmanaged,
    by decide, legible_of_known rfl, by decide, legible_of_known rfl, by decide, legible_of_known rfl,
    by decide, legible_of_known rfl, by decide, legible_of_known rfl, by decide, legible_of_known rfl, trivial⟩

theorem Platform.ofCarrier_toCarrier (p : Platform) : ofCarrier p.toCarrier = p := by
  simp [ofCarrier, toCarrier, Function.comp_def]

namespace InstallConfig

theorem ofCarrier_toCarrier (c : InstallConfig) : ofCarrier c.toCarrier = c := by
  simp [ofCarrier, toCarrier, Function.comp_def, ObjectMeta.ofCarrier_toCarrier, Platform.ofCarrier_toCarrier]

theorem legible {c : InstallConfig} (metadata : ObjectMeta.schema.Legible c.metadata.toCarrier) :
    schema.Legible c.toCarrier := by
  exact ⟨by decide, metadata, by decide, legible_of_known rfl, by decide, legible_of_known rfl,
    by decide, legible_of_known rfl, by decide, legible_of_known rfl, trivial⟩

theorem parse_render {c : InstallConfig} (legible : schema.Legible c.toCarrier) : parse c.render = .ok c := by
  obtain ⟨read, closed⟩ := Document.readRoot_render legible
  have document : Document.ofString c.render = Document.ofBytes (schema.toValue c.toCarrier).render.toUTF8 := by
    rw [Document.ofString, Document.ofBytes, source_toUTF8]
    rfl
  rw [parse, document, Document.read, read, closed]
  exact congrArg Except.ok (ofCarrier_toCarrier c)

/-- A specification whose metadata tells of no instants and no managers is read back from what is written for it. What
may be absent stays as it is, whether it is absent or there without saying anything. -/
theorem parse_render_of_unmanaged (c : InstallConfig) (created : c.metadata.creationTimestamp = none)
    (deleted : c.metadata.deletionTimestamp = none)
    (managed : ∀ managers, c.metadata.managedFields = some managers → managers = []) : parse c.render = .ok c :=
  parse_render (legible (ObjectMeta.legible created deleted managed))

/-- Texts that are empty, look like something else or have lines, also as keys. -/
def sampleTagged : InstallConfig :=
  { metadata := { name := some "", labels := some .empty, annotations := some (.ofList [("~", "a\n b\n")])
                  ownerReferences := some [] }
    clusterId := "0x1f", baseDomain := some "null"
    machines := [{ name := "- a", replicas := some (-1) }, { name := "", replicas := none }]
    platform :=
      { aws := some { region := "true", vpcCidrBlock := some "", userTags := .ofList [("", "1e3"), ("a\nb", " ")] }
        openstack := some { region := "#", cloud := some "~" } } }

theorem parse_render_of_unmanaged_sample :
    sampleTagged.metadata.managedFields = none ∧ parse sampleTagged.render = .ok sampleTagged :=
  ⟨rfl, parse_render_of_unmanaged sampleTagged rfl rfl nofun⟩

end InstallConfig
end MachineOperator
