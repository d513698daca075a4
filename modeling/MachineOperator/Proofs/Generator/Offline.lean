import MachineOperator.Proofs.Asset.Consulted
import MachineOperator.Proofs.Generator

/-!
Runs without a server. Where an image is set nobody is asked, and so no server makes a difference; on AWS the image is
written as it is set.
-/
namespace MachineOperator.Generator
open OperatorConfig (forCluster imageFrom)

variable {w v : World} {s : Settings} {cluster : InstallConfig} {authority : CertificateAuthority} {image : String}

theorem staticImage_eq (given : w.environment.get? "RHCOS_STATIC_IMAGE" = some image.toUTF8)
    (visible : ∃ c ∈ image.toList, Text.isBlank c = false) : w.staticImage = some image := by
  have set : w.setting "RHCOS_STATIC_IMAGE" = .ok image := by
    rw [World.setting, given]
    dsimp only
    rw [fromUTF8?_eq_some_iff.2 rfl]
  have shown : Text.isAllBlank image = false := by
    obtain ⟨c, inside, filled⟩ := visible
    exact List.all_eq_false.2 ⟨c, inside, by rw [filled]; decide⟩
  rw [World.staticImage, set]
  simp [Except.toOption, shown]

/-! Images that are known are not asked for. -/

theorem requests_forCluster_of_known (images : Release.StaticImages) (w : World) (cluster : InstallConfig)
    (authority : CertificateAuthority) :
    (runFrom w (forCluster images.resolver cluster authority)).2.requests = w.requests := by
  rw [OperatorConfig.runFrom_forCluster]
  rcases cluster.essence? with _ | (⟨name, id, region⟩ | ⟨name, uri, network, range⟩ | ⟨name, id, region⟩)
  · rfl
  · have known : runFrom (OperatorConfig.rendering w .aws name) (images.resolver OperatorConfig.channel region) =
        (images.lookup region, OperatorConfig.rendering w .aws name) := rfl
    dsimp only
    rw [known]
    rcases images.lookup region with cause | image <;> rfl
  · rfl
  · rfl

theorem requests_generateInto_of_known [Url.NameRules] (images : Release.StaticImages) (w : World) (s : Settings) :
    (runFrom w (generateInto s images.resolver)).2.requests = w.requests := by
  rw [runFrom_generateInto]
  rcases specification w.files s.installConfig with e | cluster
  · rfl
  · rcases certificate w.files s.authority with e | authority
    · rfl
    · have unasked := requests_forCluster_of_known images (ready w s authority) cluster authority
      dsimp only
      rcases generated : runFrom (ready w s authority) (forCluster images.resolver cluster authority) with
        ⟨cause | config, u⟩
      · rw [generated] at unasked
        exact unasked
      · rw [generated] at unasked
        exact (OutputDirectory.requests_write ..).trans unasked

/-- With accepted files a run depends on what is generated, and then on the files alone. -/
theorem outcome_of_accepted {resolve : Resolver (StateM World)}
    (inquires : ∀ channel region, Inquires (resolve channel region).run)
    (specified : specification w.files s.installConfig = .ok cluster)
    (trusted : certificate w.files s.authority = .ok authority) :
    ((runFrom w (generateInto s resolve)).1, (runFrom w (generateInto s resolve)).2.files) =
      match (runFrom w (forCluster resolve cluster authority)).1 with
      | .error cause => (.error (.generation cause), w.files)
      | .ok config =>
        ((runFrom w (OutputDirectory.write ⟨s.output⟩ [config.marshal])).1.mapError .output,
          (runFrom w (OutputDirectory.write ⟨s.output⟩ [config.marshal])).2.files) := by
  rcases generateInto_of_accepted inquires specified trusted with
    ⟨cause, u, failed, kept, through⟩ | ⟨config, u, generated, kept, through⟩
  · rw [through, failed, ← kept]
  · obtain ⟨result, left⟩ := OutputDirectory.write_congr kept ⟨s.output⟩ config.marshal
    rw [through, generated, runFrom_adapt, result, left]

/-- Servers make no difference. -/
theorem generateInto_of_known [Url.NameRules] (images : Release.StaticImages) (same : v.files = w.files) (s : Settings) :
    ((runFrom v (generateInto s images.resolver)).1, (runFrom v (generateInto s images.resolver)).2.files) =
      ((runFrom w (generateInto s images.resolver)).1, (runFrom w (generateInto s images.resolver)).2.files) := by
  have inquires := (ImageSource.fixed images).inquires_resolver
  rcases specified : specification w.files s.installConfig with e | cluster
  · rw [runFrom_generateInto, runFrom_generateInto, same, specified]
    exact congrArg (Prod.mk _) same
  · rcases trusted : certificate w.files s.authority with e | authority
    · rw [runFrom_generateInto, runFrom_generateInto, same, specified, trusted]
      exact congrArg (Prod.mk _) same
    · have answer : (runFrom v (forCluster images.resolver cluster authority)).1 =
          (runFrom w (forCluster images.resolver cluster authority)).1 :=
        OperatorConfig.forCluster_of_answer (s := v) (t := w) (fun platform _ => rfl) authority
      have here := outcome_of_accepted inquires specified trusted
      rw [← same] at specified trusted
      have there := outcome_of_accepted inquires specified trusted
      refine there.trans (Eq.trans ?_ here.symm)
      rw [ImageSource.resolver, answer]
      rcases (runFrom w (forCluster images.resolver cluster authority)).1 with cause | config
      · exact congrArg (Prod.mk _) same
      · obtain ⟨result, left⟩ := OutputDirectory.write_congr same ⟨s.output⟩ config.marshal
        dsimp only
        rw [result, left]

/-! Runs with an image that is set. -/

theorem source_of_set (set : s.staticImage = some image) : ImageSource.ofSettings s = .fixed (.everywhere image) := by
  rw [ImageSource.ofSettings, set]

theorem set_of_read (set : w.staticImage = some image) (read : (runFrom w Settings.read).1 = .ok s) :
    s.staticImage = some image := by
  obtain ⟨_, _, _, _, _, _, rfl⟩ := Settings.read_eq_ok.1 read
  exact set

theorem requests_run_of_set [Url.NameRules] (set : w.staticImage = some image) :
    (runFrom w run).2.requests = w.requests := by
  cases read : (runFrom w Settings.read).1 with
  | error cause => rw [runFrom_run, read]
  | ok s =>
    rw [(run_of_read read).2.2, source_of_set (set_of_read set read)]
    exact (requests_generateInto_of_known ..).trans (starting_requests ..)

/-- With the same files and the same variables but for the server's address, a run ends in the same way. -/
theorem run_of_set [Url.NameRules] (set : w.staticImage = some image) (files : v.files = w.files)
    (given : ∀ name, name ≠ "RHCOS_BASE_URL" → v.environment.get? name = w.environment.get? name) :
    (runFrom v run).1 = (runFrom w run).1 ∧ (runFrom v run).2.files = (runFrom w run).2.files := by
  have read' := Settings.read_of_variables given
  cases read : (runFrom w Settings.read).1 with
  | error cause =>
    rw [read] at read'
    rw [runFrom_run, runFrom_run, read, read']
    exact ⟨rfl, files⟩
  | ok s =>
    rw [read] at read'
    have kept := set_of_read set read
    have here := source_of_set kept
    have there : ImageSource.ofSettings { s with baseUrl := v.baseUrl } = .fixed (.everywhere image) :=
      source_of_set kept
    have started : (starting v s).files = (starting w s).files := by
      rw [starting_files, starting_files, files]
    obtain ⟨result, left⟩ := Prod.mk.inj (generateInto_of_known (.everywhere image) started s)
    obtain ⟨result₁, left₁, _⟩ := run_of_read read
    obtain ⟨result₂, left₂, _⟩ := run_of_read read'
    rw [here] at result₁ left₁
    rw [there] at result₂ left₂
    exact ⟨result₂.trans ((congrArg (Except.map _) result).trans result₁.symm), left₂.trans (left.trans left₁.symm)⟩

/-- On AWS the file that is written says the image as it is set. -/
theorem written_of_set [Url.NameRules] (set : w.staticImage = some image) (done : (runFrom w run).1 = .ok ()) :
    ∃ s cluster data config, (runFrom w Settings.read).1 = .ok s ∧
      specification w.files s.installConfig = .ok cluster ∧
      (runFrom w run).2.files.read (s.output.join OperatorConfig.filename) = .ok data ∧
      OperatorConfig.decode data = .ok config ∧
      ∀ platform, cluster.platform.aws = some platform →
        ∃ settings, config.settings = .aws settings ∧ settings.image = image := by
  obtain ⟨s, cluster, authority, config, read, stages⟩ := stages_of_run done
  have decoded : OperatorConfig.decode config.marshal.data = .ok config := by
    rw [OperatorConfig.marshal_data, OperatorConfig.decode_render]
  refine ⟨s, cluster, config.marshal.data, config, read, specification_eq_ok.2 stages.specification,
    File.Tree.read_write stages.file, decoded, ?_⟩
  intro platform given
  have generated := stages.generation
  rw [source_of_set (set_of_read set read)] at generated
  obtain ⟨e, found, essence, rfl, answered⟩ := OperatorConfig.settings_of_forCluster generated
  rw [InstallConfig.essence?_of_aws given] at essence
  cases essence
  have known : imageFrom w (ImageSource.fixed (.everywhere image)).resolver cluster.clusterName platform.region =
      .ok image := rfl
  cases known.symm.trans (answered _ _ _ rfl)
  exact ⟨_, rfl, rfl⟩

/-- A resolver is asked for nothing but the image of a cluster on AWS: once, about that cluster's region, and nothing
but the answer makes a difference. Where an image is set no server is asked and none makes a difference, whatever its
address is said to be; what is then written on AWS is the image as it is set. -/
theorem image_only_on_aws [Url.NameRules] (c : InstallConfig) (authority : CertificateAuthority) (a : Asset) :
    (c.platform.aws = none → ∀ (m : Type → Type) [Monad m] [Journal m] (resolve resolve' : Resolver m),
        a.generate resolve c authority = a.generate resolve' c authority) ∧
      (∀ (σ : Type) [Journal (StateM σ)] (resolve : Resolver (StateM σ)) (x : Consulted σ),
        (a.generate (Consulted.resolver resolve) c authority).run x =
          (((a.generate resolve c authority).run x.state).1,
            { state := ((a.generate resolve c authority).run x.state).2, asked := x.asked ++ Consulted.questions c })) ∧
      (∀ (σ τ : Type) [Journal (StateM σ)] [Journal (StateM τ)] (resolve : Resolver (StateM σ))
          (resolve' : Resolver (StateM τ)) (s : σ) (t : τ),
        (∀ platform, c.platform.aws = some platform →
          imageFrom s resolve c.clusterName platform.region = imageFrom t resolve' c.clusterName platform.region) →
        ((a.generate resolve c authority).run s).1 = ((a.generate resolve' c authority).run t).1) ∧
      ∀ (w : World) (image : String), w.environment.get? "RHCOS_STATIC_IMAGE" = some image.toUTF8 →
        (∃ ch ∈ image.toList, Text.isBlank ch = false) →
        (runFrom w run).2.requests = w.requests ∧
          (∀ v : World, v.files = w.files →
            (∀ name, name ≠ "RHCOS_BASE_URL" → v.environment.get? name = w.environment.get? name) →
            (runFrom v run).1 = (runFrom w run).1 ∧ (runFrom v run).2.files = (runFrom w run).2.files) ∧
          ((runFrom w run).1 = .ok () →
            ∃ s cluster data config, (runFrom w Settings.read).1 = .ok s ∧
              specification w.files s.installConfig = .ok cluster ∧
              (runFrom w run).2.files.read (s.output.join OperatorConfig.filename) = .ok data ∧
              OperatorConfig.decode data = .ok config ∧
              ∀ platform, cluster.platform.aws = some platform →
                ∃ settings, config.settings = .aws settings ∧ settings.image = image) := by
  refine ⟨?_, ?_, ?_, ?_⟩
  · intro other m _ _ resolve resolve'
    exact Asset.generate_of_no_aws other resolve resolve' a authority
  · intro σ _ resolve x
    exact Consulted.run_generate resolve a c authority x
  · intro σ τ _ _ resolve resolve' s t same
    exact Asset.generate_of_answer same a authority
  · intro w image given visible
    have set := staticImage_eq given visible
    exact ⟨requests_run_of_set set, fun v files others => run_of_set set files others, written_of_set set⟩

/-! A cluster on AWS and an image with blanks around it. -/

def offlineCluster : InstallConfig := Sample.cluster { aws := some { region := "us-east-1" } }

def offlineWorld : World :=
  { environment := sampleWorld.environment.insert "RHCOS_STATIC_IMAGE" " ami-1 ".toUTF8
    network := fun _ => none
    files := ⟨.ofList [(["i"], .file offlineCluster.render.toUTF8), (["c"], .file Sample.pem.toUTF8)], []⟩ }

def offlineSettings : Settings := { sampleSettings with staticImage := some " ami-1 " }

def offlineConfig : OperatorConfig :=
  .trusting Sample.pem (.aws (.unmanaged "sample" offlineCluster.clusterId "us-east-1" " ami-1 "))

theorem offline_stages :
    Stages offlineWorld offlineSettings (ImageSource.ofSettings offlineSettings).resolver offlineCluster
      Sample.authority offlineConfig
      (offlineWorld.files.put [OperatorConfig.filename] (.file offlineConfig.marshal.data)) where
  specification := ⟨offlineCluster.render, rfl,
    InstallConfig.parse_render (InstallConfig.legible (ObjectMeta.legible rfl rfl nofun))⟩
  certificate := ⟨Sample.pem, rfl, ofPem_eq_ok.2 ⟨rfl, rfl⟩⟩
  generation := rfl
  directory := rfl
  file := rfl

theorem image_only_on_aws_sample :
    Asset.new.generate (m := StateM World) Sample.images.resolver sampleCluster Sample.authority =
        Asset.new.generate Release.StaticImages.none.resolver sampleCluster Sample.authority ∧
      ((Asset.new.generate (m := StateM World) Sample.images.resolver offlineCluster Sample.authority).run
          sampleWorld).1 =
        ((Asset.new.generate (m := StateM World) Sample.images.resolver offlineCluster Sample.authority).run
          offlineWorld).1 ∧
      (runFrom offlineWorld run).2.requests = [] ∧
      ∃ data config settings,
        (runFrom offlineWorld run).2.files.read (offlineSettings.output.join OperatorConfig.filename) = .ok data ∧
        OperatorConfig.decode data = .ok config ∧ config.settings = .aws settings ∧ settings.image = " ami-1 " := by
  obtain ⟨unasked, _, _, _⟩ := image_only_on_aws sampleCluster Sample.authority .new
  obtain ⟨_, _, answered, offline⟩ := image_only_on_aws offlineCluster Sample.authority .new
  obtain ⟨requests, _, written⟩ := offline offlineWorld " ami-1 " rfl ⟨'a', by decide, rfl⟩
  obtain ⟨w', done, left⟩ := run_of_stages rfl offline_stages
  obtain ⟨s, cluster, data, config, read, specified, held, decoded, onAws⟩ := written (by rw [done])
  have given : (runFrom offlineWorld Settings.read).1 = .ok offlineSettings := rfl
  cases given.symm.trans read
  cases (specification_eq_ok.2 offline_stages.specification).symm.trans specified
  obtain ⟨settings, same, image⟩ := onAws _ rfl
  have known (w : World) (clusterName region : String) :
      imageFrom w Sample.images.resolver clusterName region = .ok "ami-00000000000000000" := rfl
  have alike := answered World World Sample.images.resolver Sample.images.resolver sampleWorld offlineWorld
    fun platform _ => (known ..).trans (known ..).symm
  exact ⟨unasked rfl (StateM World) _ _, alike, requests, data, config, settings, held, decoded, same, image⟩

end MachineOperator.Generator
