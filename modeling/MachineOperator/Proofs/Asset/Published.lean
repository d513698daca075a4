import MachineOperator.Proofs.Asset
import MachineOperator.Proofs.OperatorConfig.RoundTrip
import MachineOperator.Sample

/-!
What an asset publishes. Whatever is done with an asset, a file that it holds is decoded to the configuration beside it,
which asks for no machines and trusts a certificate.
-/
namespace MachineOperator
open OperatorConfig (Section Document forCluster)

theorem CertificateAuthority.pem_eq (authority : CertificateAuthority) :
    ∃ before after, authority.pem = before ++ "-----BEGIN CERTIFICATE-----" ++ after := by
  obtain ⟨before, after, split⟩ := occursIn_iff.1 authority.hasCertificate
  have header : certificateHeader = "-----BEGIN CERTIFICATE-----" := rfl
  refine ⟨String.ofList before, String.ofList after, ?_⟩
  apply String.toList_inj.1
  rw [← header, String.toList_append, String.toList_append, String.toList_ofList, String.toList_ofList]
  exact split

/-- Copied settings ask for no machines and leave the zone open. -/
theorem OperatorConfig.Section.Copies.unmanaged {settings : Section} {cluster : InstallConfig}
    (copies : settings.Copies cluster) :
    settings.replicas = 0 ∧ ∀ aws, settings = .aws aws → aws.availabilityZone = "" := by
  unfold Section.Copies at copies
  split at copies
  · obtain ⟨image, rfl⟩ := copies
    refine ⟨rfl, ?_⟩
    intro aws same
    cases same
    rfl
  · subst copies
    exact ⟨rfl, nofun⟩
  · subst copies
    exact ⟨rfl, nofun⟩
  · exact copies.elim

namespace Asset

/-- What holds of a published file and the configuration that it is the file of. -/
structure Published (file : AssetFile) (config : OperatorConfig) : Prop where
  filename : file.filename = "machine-api-operator-config.yml"
  decoded : OperatorConfig.decode file.data = .ok config
  apiVersion : config.apiVersion = "v1"
  kind : config.kind = "machineAPIOperatorConfig"
  targetNamespace : config.targetNamespace = "openshift-cluster-api"
  /-- There are settings for one provider, and they ask for no machines. -/
  replicas : (Document.ofConfig config).sections.map Section.replicas = [0]
  availabilityZone : ∀ aws, config.settings = .aws aws → aws.availabilityZone = ""
  certificate : ∃ before after, config.apiServiceCa = before ++ "-----BEGIN CERTIFICATE-----" ++ after

/-- An asset that holds a file holds beside it the configuration that was published with it. -/
def Sound (a : Asset) : Prop :=
  ∀ file, a.file? = some file → ∃ config, a.config? = some config ∧ Published file config

variable {σ : Type} [Journal (StateM σ)] {resolve : Resolver (StateM σ)} {s s' : σ}

theorem published_of_forCluster {cluster : InstallConfig} {authority : CertificateAuthority} {config : OperatorConfig}
    (done : runFrom s (forCluster resolve cluster authority) = (.ok config, s')) :
    Published config.marshal config := by
  obtain ⟨platform, settings, active, settled, rfl⟩ := OperatorConfig.runFrom_forCluster_eq_ok.1 done
  obtain ⟨replicas, zone⟩ := (OperatorConfig.copies_of_settingsFor active settled).unmanaged
  exact {
    filename := rfl
    decoded := by rw [OperatorConfig.marshal_data, OperatorConfig.decode_render]
    apiVersion := rfl
    kind := rfl
    targetNamespace := rfl
    replicas := by rw [Document.sections_ofConfig]; exact congrArg (fun n => [n]) replicas
    availabilityZone := zone
    certificate := authority.pem_eq }

theorem published_of_renders {before : List (Step σ)} {step : Step σ} {config : OperatorConfig}
    (rendered : renders resolve s before step = some config) : Published config.marshal config := by
  cases step with
  | generate cluster authority =>
    simp only [renders] at rendered
    rcases done : runFrom (after resolve s before).2 (forCluster resolve cluster authority) with ⟨_ | made, t⟩
    · rw [done] at rendered
      cases rendered
    · rw [done] at rendered
      cases rendered
      exact published_of_forCluster done
  | _ => cases rendered

/-- One step more keeps an asset sound, whether it renders a configuration or fails or does something else. -/
theorem sound_step {steps : List (Step σ)} (sound : Sound (after resolve s steps).1) (step : Step σ) :
    Sound (after resolve s (steps ++ [step])).1 := by
  rw [after_step]
  cases rendered : renders resolve s steps step with
  | none => exact sound
  | some config =>
    intro file held
    cases held
    exact ⟨config, rfl, published_of_renders rendered⟩

theorem sound_after (steps : List (Step σ)) : Sound (after resolve s steps).1 := by
  induction steps using List.reverseRecOn with
  | nil =>
    intro file held
    cases held
  | append_singleton steps step ih => exact sound_step ih step

/-- A file that an asset holds after any steps is decoded to the configuration that it holds beside it, and both are as
they have to be. -/
theorem published_after (steps : List (Step σ)) (file : AssetFile)
    (present : (after resolve s steps).1.file? = some file) :
    ∃ config, (after resolve s steps).1.config? = some config ∧ Published file config :=
  sound_after steps file present

/-- A cluster on AWS is generated, another's generation fails, and a directory is searched in vain. -/
def sampleSteps : List (Step World) :=
  [.generate (Sample.cluster { aws := some { region := "us-east-1" } }) Sample.authority,
    .generate (Sample.cluster {}) Sample.authority, .load ⟨⟨"."⟩⟩]

def sampleGenerated : OperatorConfig :=
  .trusting Sample.pem
    (.aws (.unmanaged "sample" "00000000-0000-0000-0000-000000000000" "us-east-1" "ami-00000000000000000"))

theorem published_after_sample :
    (after Sample.images.resolver World.empty sampleSteps).1.file? = some sampleGenerated.marshal ∧
      ∃ config, (after Sample.images.resolver World.empty sampleSteps).1.config? = some config ∧
        Published sampleGenerated.marshal config := by
  have present : (after Sample.images.resolver World.empty sampleSteps).1.file? = some sampleGenerated.marshal := rfl
  exact ⟨present, published_after sampleSteps sampleGenerated.marshal present⟩

end Asset
end MachineOperator
