import MachineOperator.Proofs.File.Alike
import MachineOperator.Proofs.Generator

/-!
Runs that are repeated. A run changes nothing but its file and the directories on the way to it. It does not look at
what is in the file, unless that is read as the specification or the certificate; so the next run leaves all as it is.
-/
namespace MachineOperator.Generator
open File.Tree (AlikeBut)

variable {w v : World} {s : Settings} {resolve : Resolver (StateM World)} {cluster : InstallConfig}
  {authority : CertificateAuthority} {config : OperatorConfig} {files : File.Tree} {l : File.Location}

/-- With the same settings, specification and certificate the same addresses are asked of the same servers. -/
theorem exists_requests_run [Url.NameRules] (cluster : InstallConfig) (authority : CertificateAuthority) (s : Settings)
    (network : Http.Network) :
    ∃ asked, ∀ (v : World) config files, v.network = network → (runFrom v Settings.read).1 = .ok s →
      Stages v s (ImageSource.ofSettings s).resolver cluster authority config files →
      (runFrom v run).2.requests = v.requests ++ asked := by
  obtain ⟨i, same⟩ :=
    OperatorConfig.inquires_forCluster (ImageSource.ofSettings s).inquires_resolver cluster authority network
  refine ⟨i.asked, ?_⟩
  intro v config files servers read stages
  have specified := specification_eq_ok.2 stages.specification
  have trusted := certificate_eq_ok.2 stages.certificate
  rw [← starting_files v s] at specified trusted
  have asked : runFrom (ready (starting v s) s authority)
      (OperatorConfig.forCluster (ImageSource.ofSettings s).resolver cluster authority) =
        (i.answer, (ready (starting v s) s authority).inquiring i) :=
    same _ ((starting_network v s).trans servers)
  have through : (runFrom (starting v s) (generateInto s (ImageSource.ofSettings s).resolver)).2.requests =
      (starting v s).requests ++ i.asked := by
    rw [runFrom_generateInto, specified, trusted]
    dsimp only
    rw [asked]
    rcases i.answer with cause | config
    · rfl
    · exact OutputDirectory.requests_write ..
  rw [(run_of_read read).2.2, through, starting_requests]

/-- Where both files are read as before and the configuration can be written, all stages go well. -/
theorem Stages.of_reads (inquires : ∀ channel region, Inquires (resolve channel region).run)
    (stages : Stages w s resolve cluster authority config files) (servers : v.network = w.network)
    (specified : ∀ data, w.files.read s.installConfig = .ok data → v.files.read s.installConfig = .ok data)
    (trusted : ∀ data, w.files.read s.authority = .ok data → v.files.read s.authority = .ok data)
    {made files' : File.Tree} (done : v.files.createAll s.output = (.ok (), made))
    (written : made.write (s.output.join OperatorConfig.filename) config.marshal.data = .ok files') :
    Stages v s resolve cluster authority config files' := by
  obtain ⟨specification, held, parsed⟩ := stages.specification
  obtain ⟨certificate, held', accepted⟩ := stages.certificate
  have generated := (OperatorConfig.inquires_forCluster inquires cluster authority).result_eq servers
  refine ⟨⟨specification, specified _ held, parsed⟩, ⟨certificate, trusted _ held', accepted⟩,
    generated.trans stages.generation, ?_, ?_⟩
  · rw [done]
  · rw [done]
    exact written

section
variable (inquires : ∀ channel region, Inquires (resolve channel region).run)
  (stages : Stages w s resolve cluster authority config files) (servers : v.network = w.network)
  (found : files.find (s.output.join OperatorConfig.filename) = .ok (l, .file config.marshal.data))
  (made : AlikeBut l (w.files.createAll s.output).2 files)
  (unspecified : ∀ n, w.files.find s.installConfig ≠ .ok (l, n))
  (untrusted : ∀ n, w.files.find s.authority ≠ .ok (l, n))
include inquires stages servers found made unspecified untrusted

/-- What was in the file makes no difference. -/
theorem Stages.of_alike (alike : AlikeBut l w.files v.files) : Stages v s resolve cluster authority config files := by
  obtain ⟨u, done, alike'⟩ := File.Tree.createAll_congr alike (Prod.ext stages.directory rfl) made.left
  apply stages.of_reads inquires servers ?_ ?_ done (alike'.write stages.file found)
  · intro data held
    exact alike.read held unspecified
  · intro data held
    exact alike.read held untrusted

/-- What the run has left makes no difference. -/
theorem Stages.again (left : v.files = files) : Stages v s resolve cluster authority config files := by
  subst left
  have makes := File.Tree.makes_createAll w.files s.output
  -- The directories are there, and the file takes its own place.
  have done := File.Tree.createAll_of_made (Prod.ext stages.directory rfl) made.kept made.start
  have reads (path : File.Path) (apart : ∀ n, w.files.find path ≠ .ok (l, n)) (data : ByteArray)
      (held : w.files.read path = .ok data) : v.files.read path = .ok data := by
    obtain ⟨k, there⟩ := File.Tree.read_eq_ok.1 held
    have other : k ≠ l := by
      rintro rfl
      exact apart _ there
    exact File.Tree.read_eq_ok.2 ⟨k, made.find (makes.find there) other⟩
  exact stages.of_reads inquires servers (reads _ unspecified) (reads _ untrusted) done (made.write stages.file found)

end

/-- A run that succeeds changes nothing but its file, and adds nothing else but directories that the first parts of the
output directory lead to. If neither the specification nor the certificate is that file, it makes no difference what the
file held before, or whether it was there, and a second run succeeds and leaves everything as it is. -/
theorem run_settles [Url.NameRules] (w : World) (succeeded : (runFrom w run).1 = .ok ()) :
    ∃ s l data, (runFrom w Settings.read).1 = .ok s ∧
      (runFrom w run).2.files.find (s.output.join OperatorConfig.filename) = .ok (l, .file data) ∧
      (runFrom w run).2.files.workingDirectory = w.files.workingDirectory ∧ w.files.node? l ≠ some .directory ∧
      (∀ k, k ≠ l → (runFrom w run).2.files.node? k = w.files.node? k ∨
        (w.files.node? k = none ∧ (runFrom w run).2.files.node? k = some .directory ∧
          ∃ names, names <+: s.output.parts ∧
            (runFrom w run).2.files.follow ((runFrom w run).2.files.start s.output) names = .ok k)) ∧
      ((∀ n, w.files.find s.installConfig ≠ .ok (l, n)) → (∀ n, w.files.find s.authority ≠ .ok (l, n)) →
        ∀ v : World, v.environment = w.environment → v.network = w.network →
          AlikeBut l w.files v.files ∨ v.files = (runFrom w run).2.files →
          (runFrom v run).1 = .ok () ∧ (runFrom v run).2.files = (runFrom w run).2.files ∧
            ∃ asked, (runFrom w run).2.requests = w.requests ++ asked ∧
              (runFrom v run).2.requests = v.requests ++ asked) := by
  obtain ⟨s, cluster, authority, config, read, stages⟩ := stages_of_run succeeded
  obtain ⟨l, found, alike⟩ := File.Tree.alike_write stages.file
  have makes := File.Tree.makes_createAll w.files s.output
  have inquires := (ImageSource.ofSettings s).inquires_resolver
  refine ⟨s, l, _, read, found, alike.start.trans makes.start, fun there => alike.left (makes.kept l _ there),
    fun k apart => File.Tree.kept_or_made alike apart, ?_⟩
  intro unspecified untrusted v given servers before
  have read' := (Settings.read_of_environment given).trans read
  have stages' : Stages v s (ImageSource.ofSettings s).resolver cluster authority config (runFrom w run).2.files := by
    rcases before with other | left
    · exact stages.of_alike inquires servers found alike unspecified untrusted other
    · exact stages.again inquires servers found alike unspecified untrusted left
  obtain ⟨w', done, left⟩ := run_of_stages read' stages'
  obtain ⟨asked, requests⟩ := exists_requests_run cluster authority s w.network
  exact ⟨by rw [done], by rw [done, left], asked, requests w _ _ rfl read stages, requests v _ _ servers read' stages'⟩

/-- The sample after a run. -/
def settledWorld : World :=
  { sampleWorld with files := sampleWorld.files.put [OperatorConfig.filename] (.file sampleConfig.marshal.data) }

/-- The sample with something else in the run's file. -/
def occupiedWorld : World :=
  { sampleWorld with files := sampleWorld.files.put [OperatorConfig.filename] (.file "other".toUTF8) }

theorem run_settles_sample :
    (runFrom sampleWorld run).1 = .ok () ∧ (runFrom settledWorld run).2.files = settledWorld.files ∧
      (runFrom occupiedWorld run).2.files = settledWorld.files := by
  obtain ⟨w', done, left⟩ := run_of_stages rfl sample_stages
  have succeeded : (runFrom sampleWorld run).1 = .ok () := by rw [done]
  have settled : (runFrom sampleWorld run).2.files = settledWorld.files := by
    rw [done, left]
    rfl
  obtain ⟨s, l, data, read, found, _, free, _, settles⟩ := run_settles sampleWorld succeeded
  have given : (runFrom sampleWorld Settings.read).1 = .ok sampleSettings := rfl
  cases given.symm.trans read
  have there : settledWorld.files.find (sampleSettings.output.join OperatorConfig.filename) =
      .ok ([OperatorConfig.filename], .file sampleConfig.marshal.data) := rfl
  rw [settled] at found settles
  obtain ⟨rfl, _⟩ := Prod.mk.inj (Except.ok.inj (there.symm.trans found))
  have specifiedAt : sampleWorld.files.find ⟨"i"⟩ = .ok (["i"], .file sampleCluster.render.toUTF8) := rfl
  have trustedAt : sampleWorld.files.find ⟨"c"⟩ = .ok (["c"], .file Sample.pem.toUTF8) := rfl
  have unspecified : ∀ n, sampleWorld.files.find ⟨"i"⟩ ≠ .ok ([OperatorConfig.filename], n) := by
    intro n same
    rw [specifiedAt] at same
    exact absurd (Prod.mk.inj (Except.ok.inj same)).1 (by decide)
  have untrusted : ∀ n, sampleWorld.files.find ⟨"c"⟩ ≠ .ok ([OperatorConfig.filename], n) := by
    intro n same
    rw [trustedAt] at same
    exact absurd (Prod.mk.inj (Except.ok.inj same)).1 (by decide)
  have taken : occupiedWorld.files.node? [OperatorConfig.filename] = some (.file "other".toUTF8) :=
    File.Tree.node?_put_self sampleWorld.files [] OperatorConfig.filename _
  have occupied : AlikeBut [OperatorConfig.filename] sampleWorld.files occupiedWorld.files :=
    ⟨rfl, fun k apart => (Dict.get?_insert ..).trans (if_neg apart), free, by rw [taken]; nofun⟩
  obtain ⟨_, again, _⟩ := settles unspecified untrusted settledWorld rfl rfl (.inr rfl)
  obtain ⟨_, instead, _⟩ := settles unspecified untrusted occupiedWorld rfl rfl (.inl occupied)
  exact ⟨succeeded, again, instead⟩

end MachineOperator.Generator
