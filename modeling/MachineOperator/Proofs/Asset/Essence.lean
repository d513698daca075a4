import MachineOperator.Proofs.Asset
import MachineOperator.Proofs.OperatorConfig.RoundTrip
import MachineOperator.Sample

/-!
What of a cluster reaches its configuration. Clusters that agree on that have the same configuration, however they
differ otherwise, and it can be told from the file.
-/
namespace MachineOperator

/-- What the configuration of a cluster says of it: the provider, the names and the addresses. -/
inductive Essence where
  | aws (clusterName clusterId region : String)
  | libvirt (clusterName uri networkName ipRange : String)
  | openstack (clusterName clusterId region : String)
deriving DecidableEq

/-- Of several platforms only the first counts. -/
def InstallConfig.essence? (c : InstallConfig) : Option Essence :=
  match c.platform.aws, c.platform.libvirt, c.platform.openstack with
  | some platform, _, _ => some (.aws c.clusterName c.clusterId platform.region)
  | none, some platform, _ =>
    some (.libvirt c.clusterName platform.uri platform.network.name platform.network.ipRange)
  | none, none, some platform => some (.openstack c.clusterName c.clusterId platform.region)
  | none, none, none => none

theorem InstallConfig.essence?_of_aws {c : InstallConfig} {platform : Platform.Aws}
    (given : c.platform.aws = some platform) :
    c.essence? = some (.aws c.clusterName c.clusterId platform.region) := by
  rw [essence?, given]

theorem InstallConfig.aws_of_essence? {c : InstallConfig} {name id region : String}
    (essence : c.essence? = some (.aws name id region)) :
    ∃ platform, c.platform.aws = some platform ∧ c.clusterName = name ∧ platform.region = region := by
  cases given : c.platform.aws with
  | some platform =>
    rw [essence?_of_aws given] at essence
    cases essence
    exact ⟨platform, rfl, rfl, rfl⟩
  | none =>
    rw [essence?, given] at essence
    cases here : c.platform.libvirt with
    | some platform => simp [here] at essence
    | none => cases there : c.platform.openstack <;> simp [here, there] at essence

namespace Essence

def provider : Essence → Provider
  | .aws .. => .aws
  | .libvirt .. => .libvirt
  | .openstack .. => .openstack

def clusterName : Essence → String
  | .aws name _ _ => name
  | .libvirt name _ _ _ => name
  | .openstack name _ _ => name

/-- The settings that say an essence, with an image where there is one. -/
def settings (image : String) : Essence → OperatorConfig.Section
  | .aws name id region => .aws (.unmanaged name id region image)
  | .libvirt name uri network range => .libvirt (.unmanaged name uri network range)
  | .openstack name id region => .openstack (.unmanaged name id region)

end Essence

namespace OperatorConfig

/-- The essence of a cluster on a platform of its own. -/
def essenceOn (c : InstallConfig) : Platform.Active → Essence
  | .aws platform => .aws c.clusterName c.clusterId platform.region
  | .libvirt platform => .libvirt c.clusterName platform.uri platform.network.name platform.network.ipRange
  | .openstack platform => .openstack c.clusterName c.clusterId platform.region

theorem essence?_eq (c : InstallConfig) : c.essence? = c.platform.active.map (essenceOn c) := by
  obtain ⟨metadata, clusterId, baseDomain, machines, aws, libvirt, openstack⟩ := c
  cases aws with
  | some platform => rfl
  | none =>
    cases libvirt with
    | some platform => rfl
    | none => cases openstack <;> rfl

section
variable {m : Type → Type} [Monad m]

/-- The settings of an essence. Only on AWS an image is looked up. -/
def settingsOf (resolve : Resolver m) (e : Essence) : ExceptT GenerationError m Section :=
  match e with
  | .aws _ _ region => do return e.settings (← (resolve channel region).adapt .noImage)
  | .libvirt .. | .openstack .. => return e.settings ""

/-- The configuration of a cluster comes of its essence. -/
theorem forCluster_eq [Journal m] (resolve : Resolver m) (c : InstallConfig) (authority : CertificateAuthority) :
    forCluster resolve c authority =
      match c.essence? with
      | none => throw .unknownProvider
      | some e => do
        ExceptT.lift (Journal.report (.rendering e.provider e.clusterName))
        return trusting authority.pem (← settingsOf resolve e) := by
  unfold forCluster
  rw [essence?_eq]
  cases c.platform.active with
  | none => rfl
  | some p => cases p <;> rfl

end

section
variable {σ : Type} [Journal (StateM σ)]

/-- The state after it is reported that a configuration is rendered. -/
def rendering (s : σ) (provider : Provider) (clusterName : String) : σ :=
  ((Journal.report (m := StateM σ) (.rendering provider clusterName)).run s).2

/-- The answer about the image of a cluster on AWS. -/
def imageFrom (s : σ) (resolve : Resolver (StateM σ)) (clusterName region : String) :
    Except Release.LookupError String :=
  (runFrom (rendering s .aws clusterName) (resolve channel region)).1

/-- How a generation runs, by the essence of the cluster. -/
theorem runFrom_forCluster (resolve : Resolver (StateM σ)) (c : InstallConfig) (authority : CertificateAuthority)
    (s : σ) :
    runFrom s (forCluster resolve c authority) =
      match c.essence? with
      | none => (.error .unknownProvider, s)
      | some (.aws name id region) =>
        match runFrom (rendering s .aws name) (resolve channel region) with
        | (.error cause, t) => (.error (.noImage cause), t)
        | (.ok image, t) => (.ok (trusting authority.pem (.aws (.unmanaged name id region image))), t)
      | some (.libvirt name uri network range) =>
        (.ok (trusting authority.pem (.libvirt (.unmanaged name uri network range))), rendering s .libvirt name)
      | some (.openstack name id region) =>
        (.ok (trusting authority.pem (.openstack (.unmanaged name id region))), rendering s .openstack name) := by
  rw [forCluster_eq]
  rcases c.essence? with _ | (⟨name, id, region⟩ | ⟨name, uri, network, range⟩ | ⟨name, id, region⟩)
  · rfl
  · have reported : ((Journal.report (m := StateM σ) (.rendering .aws name)).run s).2 = rendering s .aws name := rfl
    dsimp only [Essence.provider, Essence.clusterName, settingsOf]
    rw [runFrom_bind, runFrom_lift, reported]
    dsimp only
    rw [runFrom_bind, runFrom_bind, runFrom_adapt]
    rcases runFrom (rendering s .aws name) (resolve channel region) with ⟨cause | image, t⟩ <;> rfl
  · rfl
  · rfl

/-- What comes of a generation, by the essence of the cluster and the answer about its image. -/
theorem result_forCluster (resolve : Resolver (StateM σ)) (c : InstallConfig) (authority : CertificateAuthority)
    (s : σ) :
    (runFrom s (forCluster resolve c authority)).1 =
      match c.essence? with
      | none => .error .unknownProvider
      | some (.aws name id region) => ((imageFrom s resolve name region).mapError .noImage).map fun image =>
          trusting authority.pem (.aws (.unmanaged name id region image))
      | some (.libvirt name uri network range) =>
        .ok (trusting authority.pem (.libvirt (.unmanaged name uri network range)))
      | some (.openstack name id region) => .ok (trusting authority.pem (.openstack (.unmanaged name id region))) := by
  rw [runFrom_forCluster]
  rcases c.essence? with _ | (⟨name, id, region⟩ | ⟨name, uri, network, range⟩ | ⟨name, id, region⟩)
  · rfl
  · dsimp only [imageFrom]
    rcases runFrom (rendering s .aws name) (resolve channel region) with ⟨cause | image, t⟩ <;> rfl
  · rfl
  · rfl

/-- A configuration says the essence of its cluster. -/
theorem settings_of_forCluster {resolve : Resolver (StateM σ)} {c : InstallConfig} {authority : CertificateAuthority}
    {config : OperatorConfig} {s : σ} (done : (runFrom s (forCluster resolve c authority)).1 = .ok config) :
    ∃ e image, c.essence? = some e ∧ config = trusting authority.pem (e.settings image) ∧
      ∀ clusterName clusterId region, e = .aws clusterName clusterId region →
        imageFrom s resolve clusterName region = .ok image := by
  rw [result_forCluster] at done
  rcases essence : c.essence? with _ | (⟨name, id, region⟩ | ⟨name, uri, network, range⟩ | ⟨name, id, region⟩)
  · rw [essence] at done
    cases done
  · rw [essence] at done
    obtain ⟨image, answered, rfl⟩ := map_eq_ok.1 done
    refine ⟨.aws name id region, image, rfl, rfl, ?_⟩
    rintro _ _ _ ⟨⟩
    exact mapError_eq_ok.1 answered
  · rw [essence] at done
    cases done
    exact ⟨_, "", rfl, rfl, nofun⟩
  · rw [essence] at done
    cases done
    exact ⟨_, "", rfl, rfl, nofun⟩

end

end OperatorConfig

namespace Asset
open OperatorConfig

end Asset
end MachineOperator
