import MachineOperator.Proofs.Generator.Course
import MachineOperator.Proofs.OperatorConfig.RoundTrip
import MachineOperator.Proofs.Release.Lookup
import MachineOperator.Sample

/-!
Runs of the generator. A run succeeds exactly when all its stages do, and then the file that it leaves is the
configuration that was generated from the texts of the two files it read.
-/
namespace MachineOperator.Generator
open OperatorConfig (forCluster)

variable {w w' : World} {cluster : InstallConfig} {authority : CertificateAuthority}

/-- All that has to go well from the settings on: the two files hold texts that are accepted, a configuration comes of
them, its directory can be made, and its file can be written. -/
structure Stages (w : World) (s : Settings) (resolve : Resolver (StateM World)) (cluster : InstallConfig)
    (authority : CertificateAuthority) (config : OperatorConfig) (files : File.Tree) : Prop where
  specification : ∃ text : String, w.files.read s.installConfig = .ok text.toUTF8 ∧
    InstallConfig.parse text = .ok cluster
  certificate : ∃ text : String, w.files.read s.authority = .ok text.toUTF8 ∧
    CertificateAuthority.ofPem authorityName text = .ok authority
  generation : (runFrom w (forCluster resolve cluster authority)).1 = .ok config
  directory : (w.files.createAll s.output).1 = .ok ()
  file : (w.files.createAll s.output).2.write (s.output.join OperatorConfig.filename) config.marshal.data = .ok files

variable {s : Settings} {resolve : Resolver (StateM World)} {config : OperatorConfig} {files : File.Tree}

/-- With the same files and servers the same stages go well. -/
theorem Stages.congr {v : World} (inquires : ∀ channel region, Inquires (resolve channel region).run)
    (stages : Stages w s resolve cluster authority config files) (same : v.files = w.files)
    (servers : v.network = w.network) : Stages v s resolve cluster authority config files where
  specification := by rw [same]; exact stages.specification
  certificate := by rw [same]; exact stages.certificate
  generation :=
    ((OperatorConfig.inquires_forCluster inquires cluster authority).result_eq servers).trans stages.generation
  directory := by rw [same]; exact stages.directory
  file := by rw [same]; exact stages.file

theorem stages_of_generateInto {paths : List File.Path}
    (inquires : ∀ channel region, Inquires (resolve channel region).run)
    (done : runFrom w (generateInto s resolve) = (.ok paths, w')) :
    ∃ cluster authority config, Stages w s resolve cluster authority config w'.files := by
  rcases specified : specification w.files s.installConfig with e | cluster
  · rw [runFrom_generateInto, specified] at done
    cases done
  · rcases trusted : certificate w.files s.authority with e | authority
    · rw [runFrom_generateInto, specified, trusted] at done
      cases done
    · rcases generateInto_of_accepted inquires specified trusted with
        ⟨cause, v, _, _, failed⟩ | ⟨config, v, generated, kept, through⟩
      · rw [failed] at done
        cases done
      · rw [through] at done
        obtain ⟨files, made, written, _, rfl⟩ :=
          OutputDirectory.runFrom_write_singleton_eq_ok.1 (runFrom_adapt_eq_ok.1 done)
        rw [kept] at made written
        exact ⟨cluster, authority, config, specification_eq_ok.1 specified, certificate_eq_ok.1 trusted, generated, made,
          written⟩

theorem generateInto_of_stages (inquires : ∀ channel region, Inquires (resolve channel region).run)
    (stages : Stages w s resolve cluster authority config files) :
    ∃ paths w', runFrom w (generateInto s resolve) = (.ok paths, w') ∧ w'.files = files := by
  rcases generateInto_of_accepted inquires (specification_eq_ok.2 stages.specification)
    (certificate_eq_ok.2 stages.certificate) with ⟨cause, v, failed, _⟩ | ⟨config', v, generated, kept, through⟩
  · rw [stages.generation] at failed
    cases failed
  · rw [stages.generation] at generated
    cases generated
    have made := stages.directory
    have put := stages.file
    rw [← kept] at made put
    obtain ⟨u, wrote, left⟩ : ∃ u, runFrom v (OutputDirectory.write ⟨s.output⟩ [config.marshal]) =
        (.ok [s.output.join config.marshal.filename], u) ∧ u.files = files :=
      ⟨_, OutputDirectory.runFrom_write_singleton_eq_ok.2 ⟨files, made, put, rfl, rfl⟩, rfl⟩
    exact ⟨_, u, through.trans (runFrom_adapt_eq_ok.2 wrote), left⟩

theorem runFrom_run_eq_ok [Url.NameRules] :
    runFrom w run = (.ok (), w') ↔
      ∃ s paths v, (runFrom w Settings.read).1 = .ok s ∧
        runFrom (starting w s) (generateInto s (ImageSource.ofSettings s).resolver) = (.ok paths, v) ∧
        w' = v.reporting (.finished paths.length s.output) := by
  rw [runFrom_run]
  rcases (runFrom w Settings.read).1 with cause | s
  · simp
  · dsimp only
    constructor
    · intro done
      rcases generated : runFrom (starting w s) (generateInto s (ImageSource.ofSettings s).resolver) with ⟨e | paths, v⟩
      · rw [generated] at done
        cases done
      · rw [generated] at done
        cases done
        exact ⟨s, paths, v, rfl, generated, rfl⟩
    · rintro ⟨_, paths, v, same, generated, rfl⟩
      cases same
      rw [generated]

/-- A run whose settings are read and whose stages go well succeeds and leaves the files of the last stage. -/
theorem run_of_stages [Url.NameRules] (read : (runFrom w Settings.read).1 = .ok s)
    (stages : Stages w s (ImageSource.ofSettings s).resolver cluster authority config files) :
    ∃ w', runFrom w run = (.ok (), w') ∧ w'.files = files := by
  have inquires := (ImageSource.ofSettings s).inquires_resolver
  have started := stages.congr inquires (starting_files w s) (starting_network w s)
  obtain ⟨paths, v, generated, left⟩ := generateInto_of_stages inquires started
  exact ⟨_, runFrom_run_eq_ok.2 ⟨s, paths, v, read, generated, rfl⟩, left⟩

theorem stages_of_run [Url.NameRules] (done : (runFrom w run).1 = .ok ()) :
    ∃ s cluster authority config, (runFrom w Settings.read).1 = .ok s ∧
      Stages w s (ImageSource.ofSettings s).resolver cluster authority config (runFrom w run).2.files := by
  have succeeded : runFrom w run = (.ok (), (runFrom w run).2) := Prod.ext done rfl
  obtain ⟨s, paths, v, read, generated, same⟩ := runFrom_run_eq_ok.1 succeeded
  have inquires := (ImageSource.ofSettings s).inquires_resolver
  obtain ⟨cluster, authority, config, stages⟩ := stages_of_generateInto inquires generated
  rw [same]
  exact ⟨s, cluster, authority, config, read,
    stages.congr inquires (starting_files w s).symm (starting_network w s).symm⟩

/-- A run succeeds exactly when its settings are read and all stages go well. Its file then holds the configuration
that was generated from the texts of the two files, no less and no more. -/
theorem run_writes_config [Url.NameRules] (w : World) :
    ((runFrom w run).1 = .ok () ↔
        ∃ s cluster authority config files, (runFrom w Settings.read).1 = .ok s ∧
          Stages w s (ImageSource.ofSettings s).resolver cluster authority config files) ∧
      ∀ s cluster authority config files, (runFrom w Settings.read).1 = .ok s →
        Stages w s (ImageSource.ofSettings s).resolver cluster authority config files →
        (runFrom w run).2.files = files ∧
          files.read (s.output.join OperatorConfig.filename) = .ok config.marshal.data ∧
          OperatorConfig.decode config.marshal.data = .ok config ∧ config.settings.Copies cluster ∧
          w.files.read s.authority = .ok config.apiServiceCa.toUTF8 := by
  refine ⟨⟨fun done => ?_, ?_⟩, fun s cluster authority config files read stages => ?_⟩
  · have succeeded : runFrom w run = (.ok (), (runFrom w run).2) := Prod.ext done rfl
    obtain ⟨s, paths, v, read, generated, same⟩ := runFrom_run_eq_ok.1 succeeded
    have inquires := (ImageSource.ofSettings s).inquires_resolver
    obtain ⟨cluster, authority, config, stages⟩ := stages_of_generateInto inquires generated
    exact ⟨s, cluster, authority, config, v.files, read,
      stages.congr inquires (starting_files w s).symm (starting_network w s).symm⟩
  · rintro ⟨s, cluster, authority, config, files, read, stages⟩
    obtain ⟨w', done, _⟩ := run_of_stages read stages
    rw [done]
  · obtain ⟨w', done, left⟩ := run_of_stages read stages
    have generated : runFrom w (forCluster (ImageSource.ofSettings s).resolver cluster authority) = (.ok config, _) :=
      Prod.ext stages.generation rfl
    obtain ⟨copies, trusted⟩ := OperatorConfig.copies_of_forCluster generated
    obtain ⟨text, held, accepted⟩ := stages.certificate
    have whole : authority.pem = text := (ofPem_eq_ok.1 accepted).2
    refine ⟨by rw [done, left], File.Tree.read_write stages.file, ?_, copies, ?_⟩
    · rw [OperatorConfig.marshal_data, OperatorConfig.decode_render]
    · rw [held, trusted, whole]

/-! A small world: a cluster on libvirt, a certificate, and no server. -/

def sampleCluster : InstallConfig :=
  { metadata := { name := some "sample" }, clusterId := "0"
    platform := { libvirt := some { uri := "qemu", network := { name := "tt0", ipRange := "10.0.0.0/8" } } } }

def sampleWorld : World :=
  { environment := .ofList [("INSTALL_CONFIG_PATH", "i".toUTF8), ("AGGREGATOR_CA_PATH", "c".toUTF8)]
    network := fun _ => none
    files := ⟨.ofList [(["i"], .file sampleCluster.render.toUTF8), (["c"], .file Sample.pem.toUTF8)], []⟩ }

def sampleSettings : Settings :=
  { installConfig := ⟨"i"⟩, authority := ⟨"c"⟩, output := Settings.defaultOutput, baseUrl := Release.defaultBaseUrl
    timeout := Settings.defaultTimeout, staticImage := none }

def sampleConfig : OperatorConfig := .trusting Sample.pem (.libvirt (.unmanaged "sample" "qemu" "tt0" "10.0.0.0/8"))

theorem sample_stages :
    Stages sampleWorld sampleSettings (ImageSource.ofSettings sampleSettings).resolver sampleCluster Sample.authority
      sampleConfig (sampleWorld.files.put [OperatorConfig.filename] (.file sampleConfig.marshal.data)) where
  specification := ⟨sampleCluster.render, rfl,
    InstallConfig.parse_render (InstallConfig.legible (ObjectMeta.legible rfl rfl nofun))⟩
  certificate := ⟨Sample.pem, rfl, ofPem_eq_ok.2 ⟨rfl, rfl⟩⟩
  generation := rfl
  directory := rfl
  file := rfl

theorem run_writes_config_sample :
    (runFrom sampleWorld run).1 = .ok () ∧
      (runFrom sampleWorld run).2.files.read ⟨"./machine-api-operator-config.yml"⟩ = .ok sampleConfig.marshal.data := by
  obtain ⟨succeeds, writes⟩ := run_writes_config sampleWorld
  refine ⟨succeeds.2 ⟨_, _, _, _, _, rfl, sample_stages⟩, ?_⟩
  obtain ⟨left, held, _⟩ := writes _ _ _ _ _ rfl sample_stages
  rw [left]
  exact held

end MachineOperator.Generator
