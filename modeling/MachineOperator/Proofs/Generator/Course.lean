import MachineOperator.Proofs.Asset
import MachineOperator.Proofs.File.Tree
import MachineOperator.Proofs.InstallConfig
import MachineOperator.Proofs.OutputDirectory
import MachineOperator.Proofs.Settings

/-!
The course of a run. A specification and a certificate are taken from files, a configuration is generated from them, and
its file is written into a directory that is made for it. The first of these that goes wrong ends the run.
-/
namespace MachineOperator.Generator
open OperatorConfig (forCluster)

variable {w : World} {cluster : InstallConfig} {authority : CertificateAuthority}

/-- The text that a file holds, if its bytes are one. -/
def textAt (t : File.Tree) (path : File.Path) : Except File.Error String :=
  match t.read path with
  | .error cause => .error cause
  | .ok data =>
    match String.fromUTF8? data with
    | none => .error .noText
    | some text => .ok text

theorem textAt_eq_ok {t : File.Tree} {path : File.Path} {text : String} :
    textAt t path = .ok text ↔ t.read path = .ok text.toUTF8 := by
  unfold textAt
  constructor
  · intro held
    rcases read : t.read path with cause | data
    · rw [read] at held
      cases held
    · rw [read] at held
      dsimp only at held
      rcases decoded : String.fromUTF8? data with _ | text'
      · rw [decoded] at held
        cases held
      · rw [decoded] at held
        cases held
        exact congrArg Except.ok (fromUTF8?_eq_some_iff.1 decoded)
  · intro read
    rw [read]
    dsimp only
    rw [fromUTF8?_eq_some_iff.2 rfl]

theorem runFrom_readText (w : World) (input : Input) (path : File.Path) :
    runFrom w (readText input path) = ((textAt w.files path).mapError (.unreadable input path), w) := by
  unfold readText textAt
  rw [runFrom_bind, runFrom_lift, World.run_read]
  rcases w.files.read path with cause | data
  · rfl
  · dsimp only
    cases String.fromUTF8? data <;> rfl

/-- The specification that a file holds. -/
def specification (t : File.Tree) (path : File.Path) : Except Error InstallConfig :=
  match textAt t path with
  | .error cause => .error (.unreadable .installConfig path cause)
  | .ok text => (InstallConfig.parse text).mapError (.malformed path)

theorem runFrom_readInstallConfig (w : World) (path : File.Path) :
    runFrom w (readInstallConfig path) = (specification w.files path, w) := by
  unfold readInstallConfig specification
  rw [runFrom_bind, runFrom_readText]
  rcases textAt w.files path with cause | text
  · rfl
  · dsimp only [mapError_ok]
    cases InstallConfig.parse text <;> rfl

theorem specification_eq_ok {t : File.Tree} {path : File.Path} :
    specification t path = .ok cluster ↔
      ∃ text : String, t.read path = .ok text.toUTF8 ∧ InstallConfig.parse text = .ok cluster := by
  unfold specification
  constructor
  · intro done
    rcases read : textAt t path with cause | text
    · rw [read] at done
      cases done
    · rw [read] at done
      dsimp only at done
      exact ⟨text, textAt_eq_ok.1 read, mapError_eq_ok.1 done⟩
  · rintro ⟨text, there, parsed⟩
    rw [textAt_eq_ok.2 there]
    dsimp only
    rw [parsed, mapError_ok]

theorem specification_congr {t u : File.Tree} {path : File.Path} (same : u.read path = t.read path) :
    specification u path = specification t path := by
  rw [specification, specification, textAt, textAt, same]

/-- An accepted certificate is the text as it is. -/
theorem ofPem_eq_ok {name text : String} :
    CertificateAuthority.ofPem name text = .ok authority ↔ authority.name = name ∧ authority.pem = text := by
  unfold CertificateAuthority.ofPem
  constructor
  · intro accepted
    split at accepted
    · cases accepted
      exact ⟨rfl, rfl⟩
    · cases accepted
  · rintro ⟨rfl, rfl⟩
    rw [dif_pos authority.hasCertificate]

/-- The certificate that a file holds. -/
def certificate (t : File.Tree) (path : File.Path) : Except Error CertificateAuthority :=
  match textAt t path with
  | .error cause => .error (.unreadable .authority path cause)
  | .ok text => (CertificateAuthority.ofPem authorityName text).mapError .authority

theorem runFrom_readAuthority (w : World) (path : File.Path) :
    runFrom w (readAuthority path) =
      match certificate w.files path with
      | .error e => (.error e, w)
      | .ok authority => (.ok authority, w.reporting (.authorityLoaded authority.name path)) := by
  unfold readAuthority certificate
  rw [runFrom_bind, runFrom_readText]
  rcases textAt w.files path with cause | text
  · rfl
  · dsimp only [mapError_ok]
    cases CertificateAuthority.ofPem authorityName text <;> rfl

theorem certificate_eq_ok {t : File.Tree} {path : File.Path} :
    certificate t path = .ok authority ↔
      ∃ text : String, t.read path = .ok text.toUTF8 ∧
        CertificateAuthority.ofPem authorityName text = .ok authority := by
  unfold certificate
  constructor
  · intro done
    rcases read : textAt t path with cause | text
    · rw [read] at done
      cases done
    · rw [read] at done
      dsimp only at done
      exact ⟨text, textAt_eq_ok.1 read, mapError_eq_ok.1 done⟩
  · rintro ⟨text, there, accepted⟩
    rw [textAt_eq_ok.2 there]
    dsimp only
    rw [accepted, mapError_ok]

theorem name_of_certificate {t : File.Tree} {path : File.Path} (trusted : certificate t path = .ok authority) :
    authority.name = authorityName := by
  obtain ⟨_, _, accepted⟩ := certificate_eq_ok.1 trusted
  exact (ofPem_eq_ok.1 accepted).1

theorem readAuthority_eq_ok {path : File.Path} :
    (runFrom w (readAuthority path)).1 = .ok authority ↔ certificate w.files path = .ok authority := by
  rw [runFrom_readAuthority]
  rcases certificate w.files path with e | authority'
  · simp
  · rfl

/-- The file of an accepted certificate. -/
theorem find_of_certificate {t : File.Tree} {path : File.Path} (trusted : certificate t path = .ok authority) :
    ∃ l data, t.find path = .ok (l, .file data) := by
  obtain ⟨text, held, _⟩ := certificate_eq_ok.1 trusted
  obtain ⟨l, found⟩ := File.Tree.read_eq_ok.1 held
  exact ⟨l, _, found⟩

/-- The world in which the configuration is generated. -/
def preparing (w : World) (output : OutputDirectory) : World :=
  (w.reporting (.generating Asset.name Asset.dependencyNames)).reporting (.outputChecked output.path)

theorem runFrom_generate (w : World) (resolve : Resolver (StateM World)) (output : OutputDirectory)
    (cluster : InstallConfig) (authority : CertificateAuthority) :
    runFrom w (generate resolve output cluster authority) =
      match runFrom (preparing w output) (forCluster resolve cluster authority) with
      | (.error cause, v) => (.error (.generation cause), v)
      | (.ok config, v) => (.ok { config? := some config, file? := some config.marshal },
          v.reporting (.generated config.marshal.filename config.provider config.marshal.digest)) := by
  have generated := Asset.run_generate resolve .new cluster authority (preparing w output)
  unfold generate
  refine (runFrom_bind_of_ok (t := w.reporting (.generating Asset.name Asset.dependencyNames)) rfl).trans ?_
  refine (runFrom_bind_of_ok (t := preparing w output) rfl).trans ?_
  refine (runFrom_bind_of_ok (t := preparing w output) rfl).trans ?_
  dsimp only
  rw [runFrom_bind, runFrom_lift, generated]
  rcases runFrom (preparing w output) (forCluster resolve cluster authority) with ⟨cause | config, v⟩ <;> rfl

/-- The world in which the configuration is generated once the files are read. -/
def ready (w : World) (s : Settings) (authority : CertificateAuthority) : World :=
  preparing (w.reporting (.authorityLoaded authority.name s.authority)) ⟨s.output⟩

/-- A configuration is generated once both files are read and accepted, and is written once it is there. -/
theorem runFrom_generateInto (w : World) (s : Settings) (resolve : Resolver (StateM World)) :
    runFrom w (generateInto s resolve) =
      match specification w.files s.installConfig, certificate w.files s.authority with
      | .error e, _ => (.error e, w)
      | .ok _, .error e => (.error e, w)
      | .ok cluster, .ok authority =>
        match runFrom (ready w s authority) (forCluster resolve cluster authority) with
        | (.error cause, v) => (.error (.generation cause), v)
        | (.ok config, v) =>
          runFrom (v.reporting (.generated config.marshal.filename config.provider config.marshal.digest))
            ((OutputDirectory.write ⟨s.output⟩ [config.marshal]).adapt .output) := by
  unfold generateInto
  rw [runFrom_bind, runFrom_readInstallConfig]
  rcases specification w.files s.installConfig with e | cluster
  · rfl
  · dsimp only
    rw [runFrom_bind, runFrom_readAuthority]
    rcases certificate w.files s.authority with e | authority
    · rfl
    · dsimp only
      rw [runFrom_bind, runFrom_generate, ready]
      rcases runFrom (preparing (w.reporting (.authorityLoaded authority.name s.authority)) ⟨s.output⟩)
        (forCluster resolve cluster authority) with ⟨cause | config, v⟩ <;> rfl

/-- What comes of files that are accepted: the generation fails, or all depends on the writing. -/
theorem generateInto_of_accepted {s : Settings} {resolve : Resolver (StateM World)}
    (inquires : ∀ channel region, Inquires (resolve channel region).run)
    (specified : specification w.files s.installConfig = .ok cluster)
    (trusted : certificate w.files s.authority = .ok authority) :
    (∃ cause v, (runFrom w (forCluster resolve cluster authority)).1 = .error cause ∧ v.files = w.files ∧
        runFrom w (generateInto s resolve) = (.error (.generation cause), v)) ∨
      ∃ config v, (runFrom w (forCluster resolve cluster authority)).1 = .ok config ∧ v.files = w.files ∧
        runFrom w (generateInto s resolve) =
          runFrom v ((OutputDirectory.write ⟨s.output⟩ [config.marshal]).adapt .output) := by
  have asks := OperatorConfig.inquires_forCluster inquires cluster authority
  have answer : (runFrom (ready w s authority) (forCluster resolve cluster authority)).1 =
      (runFrom w (forCluster resolve cluster authority)).1 := asks.result_eq rfl
  have kept := asks.files_eq (ready w s authority)
  rw [runFrom_generateInto, specified, trusted, ← answer]
  dsimp only
  rcases generated : runFrom (ready w s authority) (forCluster resolve cluster authority) with ⟨cause | config, v⟩
  · rw [generated] at kept
    exact .inl ⟨cause, v, rfl, kept, rfl⟩
  · rw [generated] at kept
    exact .inr ⟨config, v.reporting _, rfl, kept, rfl⟩

/-- The world after the settings are read. -/
def starting (w : World) (s : Settings) : World := if s.staticImage.isSome then w.reporting .lookupSkipped else w

theorem starting_files (w : World) (s : Settings) : (starting w s).files = w.files := by
  unfold starting
  split <;> rfl

theorem starting_network (w : World) (s : Settings) : (starting w s).network = w.network := by
  unfold starting
  split <;> rfl

theorem starting_requests (w : World) (s : Settings) : (starting w s).requests = w.requests := by
  unfold starting
  split <;> rfl

theorem runFrom_note (w : World) (s : Settings) (rest : Unit → ExceptT Error (StateM World) α) :
    runFrom w (if s.staticImage.isSome then ExceptT.lift (Journal.report .lookupSkipped) >>= rest else rest ()) =
      runFrom (starting w s) (rest ()) := by
  unfold starting
  split <;> rfl

/-- A run reads its settings first. -/
theorem runFrom_run [Url.NameRules] (w : World) :
    runFrom w run =
      match (runFrom w Settings.read).1 with
      | .error cause => (.error (.settings cause), w)
      | .ok s =>
        match runFrom (starting w s) (generateInto s (ImageSource.ofSettings s).resolver) with
        | (.error e, v) => (.error e, v)
        | (.ok paths, v) => (.ok (), v.reporting (.finished paths.length s.output)) := by
  have looked : runFrom w Settings.read = ((runFrom w Settings.read).1, w) := Prod.ext rfl (Settings.looks_read w)
  unfold run
  rw [runFrom_bind, runFrom_adapt, looked]
  rcases (runFrom w Settings.read).1 with cause | s
  · rfl
  · dsimp only [mapError_ok]
    refine (runFrom_note w s _).trans ?_
    rw [runFrom_bind]
    rcases runFrom (starting w s) (generateInto s (ImageSource.ofSettings s).resolver) with ⟨e | paths, u⟩ <;> rfl

/-- With the settings read, a run gives and leaves what its stages do. -/
theorem run_of_read [Url.NameRules] {s : Settings} (read : (runFrom w Settings.read).1 = .ok s) :
    (runFrom w run).1 =
        (runFrom (starting w s) (generateInto s (ImageSource.ofSettings s).resolver)).1.map (fun _ => ()) ∧
      (runFrom w run).2.files = (runFrom (starting w s) (generateInto s (ImageSource.ofSettings s).resolver)).2.files ∧
      (runFrom w run).2.requests =
        (runFrom (starting w s) (generateInto s (ImageSource.ofSettings s).resolver)).2.requests := by
  rw [runFrom_run, read]
  dsimp only
  rcases runFrom (starting w s) (generateInto s (ImageSource.ofSettings s).resolver) with ⟨e | paths, v⟩
  · exact ⟨rfl, rfl, rfl⟩
  · exact ⟨rfl, rfl, rfl⟩

end MachineOperator.Generator
