import MachineOperator.OperatorConfig.Document

/-!
Configurations as documents. The documents that are accepted are exactly those of configurations, and one that is
refused has settings for several providers, or for none, or for another than it names; which of these is reported is
decided in this order.
-/
namespace MachineOperator.OperatorConfig.Document

/-- Whether a document has settings for a provider. -/
def carries (d : Document) : Provider → Bool
  | .aws => d.aws.isSome
  | .libvirt => d.libvirt.isSome
  | .openstack => d.openstack.isSome

/-- The providers that a document has settings for, in the order that counts. -/
def carried (d : Document) : List Provider := Provider.all.filter d.carries

theorem map_provider_sections (d : Document) : d.sections.map Section.provider = d.carried := by
  obtain ⟨apiVersion, kind, targetNamespace, apiServiceCa, provider, aws, libvirt, openstack⟩ := d
  cases aws <;> cases libvirt <;> cases openstack <;> rfl

/-- The document of a configuration has its settings and no others. -/
theorem sections_ofConfig (c : OperatorConfig) : (ofConfig c).sections = [c.settings] := by
  obtain ⟨apiVersion, kind, targetNamespace, apiServiceCa, settings⟩ := c
  cases settings <;> rfl

/-- A document's only settings stand in the place of their provider, and the other places are empty. -/
theorem places_of_sections {d : Document} {settings : Section} (only : d.sections = [settings]) :
    d.aws = settings.aws? ∧ d.libvirt = settings.libvirt? ∧ d.openstack = settings.openstack? := by
  obtain ⟨apiVersion, kind, targetNamespace, apiServiceCa, provider, aws, libvirt, openstack⟩ := d
  cases aws <;> cases libvirt <;> cases openstack <;> cases only <;> exact ⟨rfl, rfl, rfl⟩

theorem toConfig_ofConfig (c : OperatorConfig) : (ofConfig c).toConfig = .ok c := by
  unfold toConfig
  rw [sections_ofConfig]
  exact if_pos rfl

theorem toConfig_eq_ok {d : Document} {c : OperatorConfig} : d.toConfig = .ok c ↔ d = ofConfig c := by
  constructor
  · intro accepted
    unfold toConfig at accepted
    split at accepted
    · cases accepted
    · next settings only =>
      by_cases named : settings.provider.name = d.provider
      · rw [if_pos named] at accepted
        cases accepted
        obtain ⟨aws, libvirt, openstack⟩ := places_of_sections only
        obtain ⟨apiVersion, kind, targetNamespace, apiServiceCa, provider, _, _, _⟩ := d
        cases named
        cases aws
        cases libvirt
        cases openstack
        rfl
      · rw [if_neg named] at accepted
        cases accepted
    · cases accepted
  · rintro rfl
    exact toConfig_ofConfig c

/-- Why a document is refused, by the providers that it has settings for. -/
theorem toConfig_eq_error {d : Document} {r : Refusal} :
    d.toConfig = .error r ↔
      (2 ≤ d.carried.length ∧ r = .severalSections d.carried) ∨
        (d.carried = [] ∧ r = .missingSection d.provider) ∨
        ∃ p, d.carried = [p] ∧ p.name ≠ d.provider ∧ r = .otherSection d.provider p := by
  rw [← map_provider_sections]
  unfold toConfig
  rcases d.sections with _ | ⟨first, _ | ⟨second, others⟩⟩
  · simp [eq_comm]
  · by_cases named : first.provider.name = d.provider
    · simp [named]
    · dsimp only
      rw [if_neg named]
      constructor
      · intro refused
        cases refused
        exact .inr (.inr ⟨first.provider, rfl, named, rfl⟩)
      · rintro (⟨several, _⟩ | ⟨empty, _⟩ | ⟨p, only, _, rfl⟩)
        · exact absurd several (by simp)
        · cases empty
        · cases only
          rfl
  · constructor
    · intro refused
      cases refused
      exact .inl ⟨by simp, rfl⟩
    · rintro (⟨_, rfl⟩ | ⟨empty, _⟩ | ⟨p, only, _⟩)
      · rfl
      · cases empty
      · cases only

/-- Documents and configurations are converted into each other without loss: what is accepted is the document of the
configuration that comes of it. What is refused has settings for several providers, all of which are listed, or for
none, or for one that is not the one it names. -/
theorem accepted_or_refused (d : Document) :
    (∀ c, d.toConfig = .ok c ↔ d = ofConfig c) ∧
      (∀ c, (ofConfig c).toConfig = .ok c) ∧
      ∀ r, d.toConfig = .error r ↔
        (2 ≤ d.carried.length ∧ r = .severalSections d.carried ∧
            r.message = "operator config has more than one provider section: " ++
              String.intercalate ", " (d.carried.map Provider.name)) ∨
          (d.carried = [] ∧ r = .missingSection d.provider) ∨
          ∃ p, d.carried = [p] ∧ p.name ≠ d.provider ∧ r = .otherSection d.provider p := by
  refine ⟨fun c => toConfig_eq_ok, toConfig_ofConfig, fun r => ?_⟩
  rw [toConfig_eq_error]
  constructor
  · rintro (⟨several, rfl⟩ | refused)
    · exact .inl ⟨several, rfl, rfl⟩
    · exact .inr refused
  · rintro (⟨several, listed, _⟩ | refused)
    · exact .inl ⟨several, listed⟩
    · exact .inr refused

end MachineOperator.OperatorConfig.Document
