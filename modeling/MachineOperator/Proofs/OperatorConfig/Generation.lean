import MachineOperator.OperatorConfig.Generation
import MachineOperator.Proofs.World

/-!
Generating configurations. What is generated trusts the certificate as it is and copies the settings of the cluster's
first platform; a configuration comes of nothing but the cluster, the certificate and the answer about an image.
-/
namespace MachineOperator.OperatorConfig

/-- Whether settings say of a cluster what its first platform says: names and addresses are copied as they are, and no
machines are asked for. -/
def Section.Copies (settings : Section) (cluster : InstallConfig) : Prop :=
  match cluster.platform.aws, cluster.platform.libvirt, cluster.platform.openstack with
  | some platform, _, _ =>
    ∃ image, settings = .aws
      { clusterName := cluster.clusterName, clusterId := cluster.clusterId, region := platform.region
        availabilityZone := "", image, replicas := 0 }
  | none, some platform, _ =>
    settings = .libvirt
      { clusterName := cluster.clusterName, uri := platform.uri, networkName := platform.network.name
        ipRange := platform.network.ipRange, replicas := 0 }
  | none, none, some platform =>
    settings = .openstack
      { clusterName := cluster.clusterName, clusterId := cluster.clusterId, region := platform.region, replicas := 0 }
  | none, none, none => False

variable {resolve : Resolver (StateM σ)} {cluster : InstallConfig} {authority : CertificateAuthority} {s s' : σ}

theorem copies_of_settingsFor {platform : Platform.Active} {settings : Section}
    (active : cluster.platform.active = some platform)
    (done : runFrom s (settingsFor resolve cluster platform) = (.ok settings, s')) : settings.Copies cluster := by
  obtain ⟨metadata, clusterId, baseDomain, machines, aws, libvirt, openstack⟩ := cluster
  cases aws with
  | some chosen =>
    cases active
    obtain ⟨image, t, _, done⟩ := runFrom_bind_eq_ok.1 done
    cases done
    exact ⟨image, rfl⟩
  | none =>
    cases libvirt with
    | some chosen =>
      cases active
      cases done
      rfl
    | none =>
      cases openstack with
      | some chosen =>
        cases active
        cases done
        rfl
      | none => cases active

theorem runFrom_forCluster_eq_ok [Journal (StateM σ)] {config : OperatorConfig} :
    runFrom s (forCluster resolve cluster authority) = (.ok config, s') ↔
      ∃ platform settings, cluster.platform.active = some platform ∧
        runFrom ((Journal.report (m := StateM σ) (.rendering platform.provider cluster.clusterName)).run s).2
          (settingsFor resolve cluster platform) = (.ok settings, s') ∧
        config = trusting authority.pem settings := by
  unfold forCluster
  cases active : cluster.platform.active with
  | none => simp
  | some platform =>
    dsimp only
    constructor
    · intro done
      obtain ⟨_, t, reported, rest⟩ := runFrom_bind_eq_ok.1 done
      obtain ⟨settings, t', settled, last⟩ := runFrom_bind_eq_ok.1 rest
      cases reported
      cases last
      exact ⟨platform, settings, rfl, settled, rfl⟩
    · rintro ⟨_, settings, same, settled, rfl⟩
      cases same
      exact runFrom_bind_eq_ok.2 ⟨(), _, rfl, runFrom_bind_eq_ok.2 ⟨settings, s', settled, rfl⟩⟩

/-- What is generated trusts the certificate's whole text and copies the cluster's first platform. -/
theorem copies_of_forCluster [Journal (StateM σ)] {config : OperatorConfig}
    (done : runFrom s (forCluster resolve cluster authority) = (.ok config, s')) :
    config.settings.Copies cluster ∧ config.apiServiceCa = authority.pem := by
  obtain ⟨platform, settings, active, settled, rfl⟩ := runFrom_forCluster_eq_ok.1 done
  exact ⟨copies_of_settingsFor active settled, rfl⟩

/-- What a configuration is generated from but for the certificate. -/
def settling {m : Type → Type} [Monad m] [Journal m] (resolve : Resolver m) (cluster : InstallConfig) :
    ExceptT GenerationError m Section := do
  let some platform := cluster.platform.active | throw .unknownProvider
  ExceptT.lift (Journal.report (.rendering platform.provider cluster.clusterName))
  settingsFor resolve cluster platform

/-- The certificate is added in the end. -/
theorem forCluster_eq_map {m : Type → Type} [Monad m] [LawfulMonad m] [Journal m] (resolve : Resolver m)
    (cluster : InstallConfig) (authority : CertificateAuthority) :
    forCluster resolve cluster authority = trusting authority.pem <$> settling resolve cluster := by
  unfold forCluster settling
  cases cluster.platform.active with
  | none => simp
  | some platform => simp

theorem inquires_settling {resolve : Resolver (StateM World)}
    (inquires : ∀ channel region, Inquires (resolve channel region).run) (cluster : InstallConfig) :
    Inquires (settling resolve cluster).run := by
  unfold settling
  cases cluster.platform.active with
  | none => exact .throw _
  | some platform =>
    refine (Inquires.lift (.report _)).chain fun _ => ?_
    cases platform with
    | aws chosen => exact ((inquires channel chosen.region).adapt _).chain fun image => .pure _
    | libvirt chosen => exact .pure _
    | openstack chosen => exact .pure _

theorem inquires_forCluster {resolve : Resolver (StateM World)}
    (inquires : ∀ channel region, Inquires (resolve channel region).run) (cluster : InstallConfig)
    (authority : CertificateAuthority) : Inquires (forCluster resolve cluster authority).run := by
  rw [forCluster_eq_map, ExceptT.run_map]
  exact (inquires_settling inquires cluster).map _

/-- Whatever certificate is trusted, the same is asked and reported on the way to the configuration. -/
theorem exists_inquiry {resolve : Resolver (StateM World)}
    (inquires : ∀ channel region, Inquires (resolve channel region).run) (cluster : InstallConfig)
    (network : Http.Network) :
    ∃ i : Inquiry (Except GenerationError Section), ∀ (w : World) (authority : CertificateAuthority), w.network = network →
      runFrom w (forCluster resolve cluster authority) = (i.answer.map (trusting authority.pem), w.inquiring i) := by
  obtain ⟨i, same⟩ := inquires_settling inquires cluster network
  refine ⟨i, fun w authority servers => ?_⟩
  rw [forCluster_eq_map, runFrom, ExceptT.run_map, StateT.run_map, same w servers]
  rfl

/-- Only for a cluster on AWS servers are asked. -/
theorem requests_forCluster {resolve : Resolver (StateM World)}
    (inquires : ∀ channel region, Inquires (resolve channel region).run) (w : World) (cluster : InstallConfig)
    (authority : CertificateAuthority) :
    ∃ asked, (runFrom w (forCluster resolve cluster authority)).2.requests = w.requests ++ asked ∧
      (asked ≠ [] → ∃ platform, cluster.platform.active = some (.aws platform)) := by
  have none_asked : w.requests = w.requests ++ [] := (List.append_nil _).symm
  rcases active : cluster.platform.active with _ | (platform | platform | platform)
  · unfold forCluster
    rw [active]
    exact ⟨[], none_asked, absurd rfl⟩
  · obtain ⟨asked, requests⟩ := (inquires_forCluster inquires cluster authority).exists_requests w
    exact ⟨asked, requests, fun _ => ⟨platform, rfl⟩⟩
  · unfold forCluster
    rw [active]
    exact ⟨[], none_asked, absurd rfl⟩
  · unfold forCluster
    rw [active]
    exact ⟨[], none_asked, absurd rfl⟩

end MachineOperator.OperatorConfig
