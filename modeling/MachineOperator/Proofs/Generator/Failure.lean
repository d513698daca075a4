import MachineOperator.Proofs.File.Directories
import MachineOperator.Proofs.Generator

/-!
Runs that fail. Everything that is wrong counts as a fault of some stage, whatever other stages have faults; a run reports
the fault of the first stage that has one. Until the directory is made nothing changes, and then no file does; servers are
asked only for a cluster on AWS whose specification and certificate are accepted.
-/
namespace MachineOperator.Generator
open OperatorConfig (forCluster)

/-- What can go wrong. -/
inductive Stage where
  | specificationPath
  | certificatePath
  | timeout
  | specificationText
  | specification
  | certificateText
  | certificate
  | generation
  | directory
  | file
deriving DecidableEq

/-- The stages that settings are read in. -/
def Stage.reading : List Stage := [specificationPath, certificatePath, timeout]

/-- The stages of a run whose settings are read. -/
def Stage.generating : List Stage :=
  [specificationText, specification, certificateText, certificate, generation, directory, file]

def Stage.all : List Stage := reading ++ generating

section
variable (w : World)

def specificationPath? : Option File.Path := (w.setting "INSTALL_CONFIG_PATH").toOption.map File.Path.mk

def certificatePath? : Option File.Path := (w.setting "AGGREGATOR_CA_PATH").toOption.map File.Path.mk

/-- The specification that is given, if it is accepted. -/
def specification? : Option InstallConfig :=
  (specificationPath? w).bind fun path => (specification w.files path).toOption

/-- The certificate that is given, if it is accepted. -/
def certificate? : Option CertificateAuthority :=
  (certificatePath? w).bind fun path => (certificate w.files path).toOption

/-- What is wrong at a stage. A stage without what it works on has no fault of its own. -/
def fault? [Url.NameRules] : Stage → Option Error
  | .specificationPath =>
    (error? (w.setting "INSTALL_CONFIG_PATH")).map fun cause => .settings (.missing "INSTALL_CONFIG_PATH" cause)
  | .certificatePath =>
    (error? (w.setting "AGGREGATOR_CA_PATH")).map fun cause => .settings (.missing "AGGREGATOR_CA_PATH" cause)
  | .timeout => (error? w.timeout).map fun cause => .settings (.noNumber "RHCOS_TIMEOUT_SECONDS" cause)
  | .specificationText =>
    (specificationPath? w).bind fun path => (error? (textAt w.files path)).map (.unreadable .installConfig path)
  | .specification =>
    (specificationPath? w).bind fun path => (textAt w.files path).toOption.bind fun text =>
      (error? (InstallConfig.parse text)).map (.malformed path)
  | .certificateText =>
    (certificatePath? w).bind fun path => (error? (textAt w.files path)).map (.unreadable .authority path)
  | .certificate =>
    (certificatePath? w).bind fun path => (textAt w.files path).toOption.bind fun text =>
      if occursIn certificateHeader.toList text.toList then none
      else some (.authority (.missingCertificate authorityName))
  | .generation =>
    (specification? w).bind fun cluster =>
      match cluster.platform.active with
      | none => some (.generation .unknownProvider)
      | some (.aws platform) =>
        (error? (runFrom w (w.source.resolver OperatorConfig.channel platform.region)).1).map fun cause =>
          .generation (.noImage cause)
      | some (.libvirt _) | some (.openstack _) => none
  | .directory => (error? (w.files.createAll w.output).1).map fun cause => .output (.directory w.output cause)
  | .file =>
    (error? ((w.files.createAll w.output).2.findFile (w.output.join OperatorConfig.filename))).map fun cause =>
      .output (.file (w.output.join OperatorConfig.filename) cause)

end

variable {w w' : World} {s : Settings} {resolve : Resolver (StateM World)}

theorem error?_specification (t : File.Tree) (path : File.Path) :
    error? (specification t path) =
      ((error? (textAt t path)).map (.unreadable .installConfig path)).or
        ((textAt t path).toOption.bind fun text => (error? (InstallConfig.parse text)).map (.malformed path)) := by
  unfold specification
  rcases textAt t path with cause | text
  · rfl
  · rcases parsed : InstallConfig.parse text with cause | cluster
    · simp [Except.toOption, parsed]
    · simp [Except.toOption, parsed]

theorem error?_certificate (t : File.Tree) (path : File.Path) :
    error? (certificate t path) =
      ((error? (textAt t path)).map (.unreadable .authority path)).or
        ((textAt t path).toOption.bind fun text =>
          if occursIn certificateHeader.toList text.toList then none
          else some (.authority (.missingCertificate authorityName))) := by
  unfold certificate CertificateAuthority.ofPem
  rcases textAt t path with cause | text
  · rfl
  · by_cases headed : occursIn certificateHeader.toList text.toList = true
    · simp [Except.toOption, headed]
    · simp [Except.toOption, headed]

theorem error?_forCluster {v : World} (inquires : ∀ channel region, Inquires (resolve channel region).run)
    (servers : v.network = w.network) (cluster : InstallConfig) (authority : CertificateAuthority) :
    error? (runFrom v (forCluster resolve cluster authority)).1 =
      match cluster.platform.active with
      | none => some .unknownProvider
      | some (.aws platform) =>
        (error? (runFrom w (resolve OperatorConfig.channel platform.region)).1).map .noImage
      | some (.libvirt _) | some (.openstack _) => none := by
  unfold forCluster
  rcases cluster.platform.active with _ | (platform | platform | platform)
  · rfl
  · have answer : (runFrom (v.reporting (.rendering .aws cluster.clusterName))
        (resolve OperatorConfig.channel platform.region)).1 =
        (runFrom w (resolve OperatorConfig.channel platform.region)).1 :=
      (inquires OperatorConfig.channel platform.region).result_eq servers
    have reported : (Journal.report (m := StateM World)
        (.rendering (Platform.Active.aws platform).provider cluster.clusterName)).run v =
        ((), v.reporting (.rendering .aws cluster.clusterName)) := rfl
    dsimp only
    rw [← answer, runFrom_bind, runFrom_lift, reported]
    dsimp only [OperatorConfig.settingsFor]
    rw [runFrom_bind, runFrom_bind, runFrom_adapt]
    rcases runFrom (v.reporting (.rendering .aws cluster.clusterName))
      (resolve OperatorConfig.channel platform.region) with ⟨cause | image, u⟩ <;> rfl
  · rfl
  · rfl

theorem findSome?_cons_or (f : α → Option β) (a : α) (others : List α) :
    (a :: others).findSome? f = (f a).or (others.findSome? f) := by
  rw [List.findSome?_cons]
  cases f a <;> rfl

/-- The faults that settings can have are found when they are read. -/
theorem fault?_reading [Url.NameRules] (w : World) :
    Stage.reading.findSome? (fault? w) = (error? (runFrom w Settings.read).1).map .settings := by
  rw [Settings.runFrom_read]
  simp only [Stage.reading, findSome?_cons_or, List.findSome?_nil, fault?]
  rcases w.setting "INSTALL_CONFIG_PATH" with cause | specification
  · rfl
  · rcases w.setting "AGGREGATOR_CA_PATH" with cause | authority
    · rfl
    · rcases w.timeout with cause | timeout <;> rfl

theorem paths_of_read (read : (runFrom w Settings.read).1 = .ok s) :
    specificationPath? w = some s.installConfig ∧ certificatePath? w = some s.authority ∧ s.output = w.output := by
  obtain ⟨specified, trusted, timeout, atSpecification, atCertificate, timed, rfl⟩ := Settings.read_eq_ok.1 read
  refine ⟨?_, ?_, rfl⟩
  · rw [specificationPath?, atSpecification]
    rfl
  · rw [certificatePath?, atCertificate]
    rfl

theorem specification?_eq_some (read : (runFrom w Settings.read).1 = .ok s) {cluster : InstallConfig}
    (specified : specification w.files s.installConfig = .ok cluster) : specification? w = some cluster := by
  obtain ⟨given, _, _⟩ := paths_of_read read
  rw [specification?, given, Option.bind_some, specified]
  rfl

theorem certificate?_eq_some (read : (runFrom w Settings.read).1 = .ok s) {authority : CertificateAuthority}
    (trusted : certificate w.files s.authority = .ok authority) : certificate? w = some authority := by
  obtain ⟨_, given, _⟩ := paths_of_read read
  rw [certificate?, given, Option.bind_some, trusted]
  rfl

/-- The faults of the later stages are those of the functions that the stages are made of. -/
theorem fault?_generating [Url.NameRules] (read : (runFrom w Settings.read).1 = .ok s) :
    Stage.generating.findSome? (fault? w) =
      (error? (specification w.files s.installConfig)).or ((error? (certificate w.files s.authority)).or
        ((fault? w .generation).or ((fault? w .directory).or (fault? w .file)))) := by
  obtain ⟨specifiedAt, trustedAt, _⟩ := paths_of_read read
  simp only [Stage.generating, findSome?_cons_or, List.findSome?_nil, Option.or_none, error?_specification,
    error?_certificate, Option.or_assoc]
  rw [fault?, fault?, fault?, fault?, specifiedAt, trustedAt]
  rfl

theorem fault?_generation [Url.NameRules] {v : World} {cluster : InstallConfig}
    (specified : specification? w = some cluster)
    (servers : v.network = w.network) (authority : CertificateAuthority) :
    fault? w .generation =
      (error? (runFrom v (forCluster w.source.resolver cluster authority)).1).map .generation := by
  rw [fault?, specified, error?_forCluster w.source.inquires_resolver servers, Option.bind_some]
  rcases cluster.platform.active with _ | (platform | platform | platform)
  · rfl
  · exact (Option.map_map ..).symm
  · rfl
  · rfl

theorem fault?_writing [Url.NameRules] {v : World} (same : v.files = w.files) (config : OperatorConfig) :
    (fault? w .directory).or (fault? w .file) =
      (error? (runFrom v (OutputDirectory.write ⟨w.output⟩ [config.marshal])).1).map .output := by
  rw [OutputDirectory.error?_write, same, Option.map_or, Option.map_map, Option.map_map]
  rfl

/-- With the settings read, the first fault of a later stage decides. -/
theorem error?_generateInto [Url.NameRules] (read : (runFrom w Settings.read).1 = .ok s) :
    error? (runFrom (starting w s) (generateInto s w.source.resolver)).1 = Stage.generating.findSome? (fault? w) := by
  obtain ⟨_, _, output⟩ := paths_of_read read
  have held := starting_files w s
  rw [fault?_generating read]
  rcases specified : specification w.files s.installConfig with e | cluster
  · rw [runFrom_generateInto, held, specified]
    rfl
  · rcases trusted : certificate w.files s.authority with e | authority
    · rw [runFrom_generateInto, held, specified, trusted]
      rfl
    · rw [fault?_generation (specification?_eq_some read specified) (starting_network w s) authority]
      rw [← held] at specified trusted
      rcases generateInto_of_accepted w.source.inquires_resolver specified trusted with
        ⟨cause, v, failed, _, through⟩ | ⟨config, v, generated, kept, through⟩
      · rw [through, failed]
        rfl
      · rw [through, generated, fault?_writing (kept.trans held) config, output, runFrom_adapt, error?_mapError]
        rfl

/-- Whatever is wrong, the first stage with a fault decides. -/
theorem error?_run [Url.NameRules] (w : World) : error? (runFrom w run).1 = Stage.all.findSome? (fault? w) := by
  rw [runFrom_run, Stage.all, List.findSome?_append, fault?_reading]
  rcases read : (runFrom w Settings.read).1 with cause | s
  · rfl
  · have generated := error?_generateInto read
    dsimp only [error?_ok, Option.map_none]
    rw [Settings.source_of_read read, Option.none_or, ← generated]
    rcases runFrom (starting w s) (generateInto s w.source.resolver) with ⟨e | paths, v⟩ <;> rfl

/-- Files change only once the configuration is there, and when writing it fails only by the directory. -/
theorem files_of_generateInto_error {e : Error} (inquires : ∀ channel region, Inquires (resolve channel region).run)
    (failed : runFrom w (generateInto s resolve) = (.error e, w')) :
    w'.files = w.files ∨ ∃ cause, e = .output cause ∧ w'.files = (w.files.createAll s.output).2 := by
  rcases specified : specification w.files s.installConfig with e | cluster
  · rw [runFrom_generateInto, specified] at failed
    cases failed
    exact .inl rfl
  · rcases trusted : certificate w.files s.authority with e | authority
    · rw [runFrom_generateInto, specified, trusted] at failed
      cases failed
      exact .inl rfl
    · rcases generateInto_of_accepted inquires specified trusted with
        ⟨cause, v, _, kept, through⟩ | ⟨config, v, _, kept, through⟩
      · rw [through] at failed
        cases failed
        exact .inl kept
      · rw [through, runFrom_adapt] at failed
        rcases wrote : runFrom v (OutputDirectory.write ⟨s.output⟩ [config.marshal]) with ⟨cause | paths, u⟩
        · rw [wrote] at failed
          cases failed
          cases OutputDirectory.making_of_error wrote
          refine .inr ⟨cause, rfl, ?_⟩
          rw [OutputDirectory.making, kept]
        · rw [wrote] at failed
          cases failed

/-- Servers are asked for nothing but the image of a cluster on AWS. -/
theorem requests_generateInto (inquires : ∀ channel region, Inquires (resolve channel region).run) (w : World)
    (s : Settings) :
    ∃ asked, (runFrom w (generateInto s resolve)).2.requests = w.requests ++ asked ∧
      (asked ≠ [] → ∃ cluster authority platform, specification w.files s.installConfig = .ok cluster ∧
        certificate w.files s.authority = .ok authority ∧ cluster.platform.active = some (.aws platform)) := by
  rw [runFrom_generateInto]
  rcases specification w.files s.installConfig with e | cluster
  · exact ⟨[], (List.append_nil _).symm, absurd rfl⟩
  · rcases certificate w.files s.authority with e | authority
    · exact ⟨[], (List.append_nil _).symm, absurd rfl⟩
    · obtain ⟨asked, requests, aws⟩ :=
        OperatorConfig.requests_forCluster inquires (ready w s authority) cluster authority
      refine ⟨asked, Eq.trans ?_ requests, ?_⟩
      · dsimp only
        rcases runFrom (ready w s authority) (forCluster resolve cluster authority) with ⟨cause | config, v⟩
        · rfl
        · exact OutputDirectory.requests_write ..
      · intro some_asked
        obtain ⟨platform, active⟩ := aws some_asked
        exact ⟨cluster, authority, platform, rfl, rfl, active⟩

/-- A run that fails before it makes the directory leaves all files as they are. -/
theorem files_of_run_error [Url.NameRules] {e : Error} (failed : runFrom w run = (.error e, w')) :
    w'.files = w.files ∨ ∃ cause, e = .output cause ∧ w'.files = (w.files.createAll w.output).2 := by
  rw [runFrom_run] at failed
  rcases read : (runFrom w Settings.read).1 with cause | s
  · rw [read] at failed
    cases failed
    exact .inl rfl
  · rw [read] at failed
    dsimp only at failed
    rcases generated : runFrom (starting w s) (generateInto s (ImageSource.ofSettings s).resolver) with ⟨e | paths, v⟩
    · rw [generated] at failed
      cases failed
      have left := files_of_generateInto_error (ImageSource.ofSettings s).inquires_resolver generated
      rw [starting_files, (paths_of_read read).2.2] at left
      exact left
    · rw [generated] at failed
      cases failed

theorem requests_run [Url.NameRules] (w : World) :
    ∃ asked, (runFrom w run).2.requests = w.requests ++ asked ∧
      (asked ≠ [] → ∃ cluster authority platform, specification? w = some cluster ∧ certificate? w = some authority ∧
        cluster.platform.active = some (.aws platform)) := by
  rw [runFrom_run]
  rcases read : (runFrom w Settings.read).1 with cause | s
  · exact ⟨[], (List.append_nil _).symm, absurd rfl⟩
  · obtain ⟨asked, requests, aws⟩ :=
      requests_generateInto (ImageSource.ofSettings s).inquires_resolver (starting w s) s
    rw [starting_requests] at requests
    rw [starting_files] at aws
    refine ⟨asked, Eq.trans ?_ requests, ?_⟩
    · dsimp only
      rcases runFrom (starting w s) (generateInto s (ImageSource.ofSettings s).resolver) with ⟨e | paths, v⟩ <;> rfl
    · intro some_asked
      obtain ⟨cluster, authority, platform, specified, trusted, active⟩ := aws some_asked
      exact ⟨cluster, authority, platform, specification?_eq_some read specified, certificate?_eq_some read trusted,
        active⟩

/-- A run fails with the fault of the first stage that has one. When that comes before the directory is made, all files
stay as they are and no directory is added; when it is the directory's or the file's own, no file is changed or added.
Servers are asked only when the specification and the certificate are accepted and the cluster is on AWS. -/
theorem run_fails_first [Url.NameRules] (w : World) :
    (∀ e, (runFrom w run).1 = .error e ↔
        ∃ before stage later, Stage.all = before ++ stage :: later ∧ fault? w stage = some e ∧
          ∀ earlier ∈ before, fault? w earlier = none) ∧
      (∀ e, (runFrom w run).1 = .error e → (∀ cause, e ≠ .output cause) → (runFrom w run).2.files = w.files) ∧
      (∀ cause, (runFrom w run).1 = .error (.output cause) → ∀ l data,
        (runFrom w run).2.files.node? l = some (.file data) ↔ w.files.node? l = some (.file data)) ∧
      ∃ asked, (runFrom w run).2.requests = w.requests ++ asked ∧
        (asked ≠ [] → ∃ cluster authority platform, specification? w = some cluster ∧ certificate? w = some authority ∧
          cluster.platform.active = some (.aws platform)) := by
  refine ⟨?_, ?_, ?_, requests_run w⟩
  · intro e
    rw [← error?_eq_some, error?_run]
    exact List.findSome?_eq_some_iff
  · intro e failed early
    rcases files_of_run_error (Prod.ext failed rfl) with same | ⟨cause, late, _⟩
    · exact same
    · exact absurd late (early cause)
  · intro cause failed l data
    rcases files_of_run_error (Prod.ext failed rfl) with same | ⟨_, _, made⟩
    · rw [same]
    · rw [made]
      exact (File.Tree.extends_createAll w.files w.output).file_iff

/-- The sample, with an output directory inside of a file. -/
def blockedWorld : World :=
  { sampleWorld with environment := sampleWorld.environment.insert "OUTPUT_DIR" "c/out".toUTF8 }

/-- The same without any files. -/
def emptiedWorld : World := { blockedWorld with files := ⟨.empty, []⟩ }

def blockedSettings : Settings := { sampleSettings with output := ⟨"c/out"⟩ }

theorem blocked_fault :
    Stage.all.findSome? (fault? blockedWorld) = some (.output (.directory ⟨"c/out"⟩ .notDirectory)) := by
  have read : (runFrom blockedWorld Settings.read).1 = .ok blockedSettings := rfl
  have specified : specification blockedWorld.files blockedSettings.installConfig = .ok sampleCluster :=
    specification_eq_ok.2 sample_stages.specification
  have trusted : certificate blockedWorld.files blockedSettings.authority = .ok Sample.authority :=
    certificate_eq_ok.2 sample_stages.certificate
  have generated := fault?_generation (v := blockedWorld) (specification?_eq_some read specified) rfl Sample.authority
  rw [Stage.all, List.findSome?_append, fault?_reading, read, fault?_generating read, specified, trusted, generated]
  rfl

theorem emptied_fault :
    Stage.all.findSome? (fault? emptiedWorld) = some (.unreadable .installConfig ⟨"i"⟩ .notFound) := by
  have read : (runFrom emptiedWorld Settings.read).1 = .ok blockedSettings := rfl
  have missing : specification emptiedWorld.files blockedSettings.installConfig =
      .error (.unreadable .installConfig ⟨"i"⟩ .notFound) := rfl
  rw [Stage.all, List.findSome?_append, fault?_reading, read, fault?_generating read, missing]
  rfl

theorem run_fails_first_sample :
    (runFrom blockedWorld run).1 = .error (.output (.directory ⟨"c/out"⟩ .notDirectory)) ∧
      (runFrom blockedWorld run).2.files.node? ["c"] = some (.file Sample.pem.toUTF8) ∧
      (runFrom emptiedWorld run).1 = .error (.unreadable .installConfig ⟨"i"⟩ .notFound) ∧
      (runFrom emptiedWorld run).2.files = emptiedWorld.files := by
  obtain ⟨blocked, _, kept, _⟩ := run_fails_first blockedWorld
  obtain ⟨emptied, unchanged, _, _⟩ := run_fails_first emptiedWorld
  have late := (blocked _).2 (List.findSome?_eq_some_iff.1 blocked_fault)
  have early := (emptied _).2 (List.findSome?_eq_some_iff.1 emptied_fault)
  refine ⟨late, (kept _ late _ _).2 rfl, early, unchanged _ early ?_⟩
  intro cause same
  cases same

end MachineOperator.Generator
