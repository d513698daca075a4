import MachineOperator.Proofs.Asset.Essence
import MachineOperator.Proofs.Digest
import MachineOperator.Proofs.Generator.Course
import MachineOperator.Proofs.OutputDirectory.Reported
import MachineOperator.Proofs.Release.Server

/-!
What a run reports of its output, and what is then on the disk. A configuration that is generated is reported with its
digest, and the file of it, once it is written, with its size and the short form of the same digest. Nothing else is
reported of output, neither on the way to a configuration nor when there is none.
-/
namespace MachineOperator

/-- Whether an event says that there is a configuration, or a file. -/
def Event.isOutput : Event → Bool
  | generated .. | fileWritten .. => true
  | _ => false

/-- Such events are told by their messages. -/
theorem Event.isOutput_eq_false {e : Event} :
    e.isOutput = false ↔ e.message ≠ "generated machine-api-operator config" ∧ e.message ≠ "wrote asset file" := by
  cases e <;> simp [isOutput, message]

/-- From one world to another events are reported, but none of output. -/
def Quiet (w v : World) : Prop := ∃ told, v.events = w.events ++ told ∧ ∀ e ∈ told, e.isOutput = false

namespace Quiet
variable {w v u : World}

theorem of_eq (same : v.events = w.events) : Quiet w v := ⟨[], by simpa using same, nofun⟩

theorem trans (first : Quiet w v) (second : Quiet v u) : Quiet w u := by
  obtain ⟨told, events, quiet⟩ := first
  obtain ⟨more, later, still⟩ := second
  refine ⟨told ++ more, by rw [later, events, List.append_assoc], ?_⟩
  intro e member
  rcases List.mem_append.1 member with earlier | last
  · exact quiet e earlier
  · exact still e last

theorem reporting (w : World) {e : Event} (quiet : e.isOutput = false) : Quiet w (w.reporting e) :=
  ⟨[e], rfl, by simpa using quiet⟩

theorem report {e : Event} (w : World) (quiet : e.isOutput = false) :
    Quiet w (runFrom w (ExceptT.lift (Journal.report e) : ExceptT ε (StateM World) Unit)).2 :=
  .reporting w quiet

/-- A program is quiet when its first part is and when what follows is, whatever the first part gives. -/
theorem chain {x : ExceptT ε (StateM World) α} {f : α → ExceptT ε (StateM World) β}
    (first : ∀ w, Quiet w (runFrom w x).2) (next : ∀ a w, Quiet w (runFrom w (f a)).2) (w : World) :
    Quiet w (runFrom w (x >>= f)).2 := by
  have before := first w
  rw [runFrom_bind]
  rcases done : runFrom w x with ⟨e | a, v⟩
  · rw [done] at before
    exact before
  · rw [done] at before
    exact before.trans (next a v)

theorem adapt {x : ExceptT ε (StateM World) α} (f : ε → ε') (quiet : ∀ w, Quiet w (runFrom w x).2) (w : World) :
    Quiet w (runFrom w (x.adapt f)).2 := by
  rw [runFrom_adapt]
  exact quiet w

end Quiet

namespace Release.Server

theorem quiet_fetch [Url.NameRules] (w : World) (operation : Operation) (address : String)
    (decode : List UInt8 → Except Json.Error α) :
    Quiet w (runFrom w (fetch operation address decode)).2 := by
  obtain ⟨asked, answer, fetched⟩ := exists_fetched w.network operation address decode
  rw [runFrom_fetch fetched]
  exact .of_eq rfl

theorem quiet_resolver [Url.NameRules] (s : Server) (channel region : String) (w : World) :
    Quiet w (runFrom w (s.resolver channel region)).2 := by
  unfold resolver
  refine .chain (fun w => quiet_fetch w ..) (fun index w => ?_) w
  cases index.latest? with
  | none => exact .of_eq rfl
  | some build =>
    refine .chain (fun w => .report w rfl) (fun _ => ?_) w
    refine .chain (fun w => quiet_fetch w ..) fun found w => ?_
    cases found.imageIn? region with
    | none => exact .of_eq rfl
    | some image => exact .report (ε := LookupError) w rfl

end Release.Server

theorem ImageSource.quiet_resolver [Url.NameRules] (source : ImageSource) (channel region : String) (w : World) :
    Quiet w (runFrom w (source.resolver (m := StateM World) channel region)).2 := by
  cases source with
  | fixed images => exact .of_eq rfl
  | server s => exact s.quiet_resolver channel region w

namespace OperatorConfig

theorem quiet_forCluster {resolve : Resolver (StateM World)}
    (quiet : ∀ channel region w, Quiet w (runFrom w (resolve channel region)).2) (cluster : InstallConfig)
    (authority : CertificateAuthority) (w : World) : Quiet w (runFrom w (forCluster resolve cluster authority)).2 := by
  rw [forCluster_eq]
  cases cluster.essence? with
  | none => exact .of_eq rfl
  | some e =>
    refine .chain (fun w => .report w rfl) (fun _ => ?_) w
    refine .chain ?_ fun _ w => .of_eq rfl
    cases e with
    | aws name id region => exact .chain (.adapt _ (quiet channel region)) fun _ w => .of_eq rfl
    | libvirt name uri network range => exact fun w => .of_eq rfl
    | openstack name id region => exact fun w => .of_eq rfl

end OperatorConfig

namespace Generator
open OperatorConfig (forCluster)

theorem quiet_ready (w : World) (s : Settings) (authority : CertificateAuthority) : Quiet w (ready w s authority) := by
  have loaded : Quiet w (w.reporting (.authorityLoaded authority.name s.authority)) := .reporting w rfl
  exact (loaded.trans (.reporting _ rfl)).trans (.reporting _ rfl)

/-- The event that there is a configuration. -/
def generated (config : OperatorConfig) : Event :=
  .generated OperatorConfig.filename config.provider config.marshal.digest

theorem generated_eq (config : OperatorConfig) :
    generated config =
      .generated OperatorConfig.filename config.provider ("sha256:" ++ Digest.hexOf config.marshal.data) := rfl

theorem written_marshal (output : File.Path) (config : OperatorConfig) :
    OutputDirectory.written ⟨output⟩ config.marshal =
      .fileWritten (output.join OperatorConfig.filename) config.marshal.data.size
        (String.ofList ((Digest.hexOf config.marshal.data).toList.take 8)) := by
  rw [OutputDirectory.written, AssetFile.digest, Digest.short_nameOf]
  rfl

/-- Files that cannot be read or are refused are no output. -/
theorem specification_ne_output {t : File.Tree} {path : File.Path} {cause : OutputDirectory.WriteError} :
    specification t path ≠ .error (.output cause) := by
  unfold specification
  rcases textAt t path with e | text
  · simp
  · dsimp only
    cases InstallConfig.parse text <;> simp

theorem certificate_ne_output {t : File.Tree} {path : File.Path} {cause : OutputDirectory.WriteError} :
    certificate t path ≠ .error (.output cause) := by
  unfold certificate
  rcases textAt t path with e | text
  · simp
  · dsimp only
    cases CertificateAuthority.ofPem authorityName text <;> simp

/-- What generating comes to, as far as output is reported: it ends before there is a configuration, or there is one, which
is reported and then written. -/
theorem generateInto_cases (quiet : ∀ channel region w, Quiet w (runFrom w (resolve channel region)).2) (w : World)
    (s : Settings) :
    (∃ e v, runFrom w (generateInto s resolve) = (.error e, v) ∧ (∀ cause, e ≠ .output cause) ∧ Quiet w v) ∨
      ∃ config v, Quiet w v ∧ runFrom w (generateInto s resolve) =
        runFrom (v.reporting (generated config)) ((OutputDirectory.write ⟨s.output⟩ [config.marshal]).adapt .output) := by
  rw [runFrom_generateInto]
  rcases specified : specification w.files s.installConfig with e | cluster
  · refine .inl ⟨e, w, rfl, ?_, .of_eq rfl⟩
    rintro cause rfl
    exact specification_ne_output specified
  · rcases trusted : certificate w.files s.authority with e | authority
    · refine .inl ⟨e, w, rfl, ?_, .of_eq rfl⟩
      rintro cause rfl
      exact certificate_ne_output trusted
    · dsimp only
      have before := (quiet_ready w s authority).trans (OperatorConfig.quiet_forCluster quiet cluster authority _)
      rcases done : runFrom (ready w s authority) (forCluster resolve cluster authority) with ⟨cause | config, v⟩
      · rw [done] at before
        exact .inl ⟨.generation cause, v, rfl, nofun, before⟩
      · rw [done] at before
        exact .inr ⟨config, v, before, rfl⟩

/-- A configuration that is generated is reported once, with the full digest of its file. Once the file is written it is
reported, once and after that, by its path, with the size and the short form of the digest of the bytes that the path then
leads to. When the file cannot be written only the configuration is reported, and when there is none neither is. -/
theorem generateInto_reports [Url.NameRules] (source : ImageSource) (w : World) (s : Settings) :
    match runFrom w (generateInto s source.resolver) with
    | (.ok paths, v) =>
      ∃ early provider path data, paths = [path] ∧ path = s.output.join OperatorConfig.filename ∧
        v.files.read path = .ok data ∧
        v.events = w.events ++ early ++
          [.generated OperatorConfig.filename provider ("sha256:" ++ Digest.hexOf data),
            .fileWritten path data.size (String.ofList ((Digest.hexOf data).toList.take 8))] ∧
        (∀ e ∈ early, e.message ≠ "generated machine-api-operator config" ∧ e.message ≠ "wrote asset file") ∧
        Digest.short ("sha256:" ++ Digest.hexOf data) = String.ofList ((Digest.hexOf data).toList.take 8) ∧
        (Digest.hexOf data).toList.length = 64 ∧ ∀ c ∈ (Digest.hexOf data).toList, c ∈ "0123456789abcdef".toList
    | (.error (.output _), v) =>
      ∃ early provider digest,
        v.events = w.events ++ early ++ [.generated OperatorConfig.filename provider digest] ∧
        ∀ e ∈ early, e.message ≠ "generated machine-api-operator config" ∧ e.message ≠ "wrote asset file"
    | (.error _, v) =>
      ∃ early, v.events = w.events ++ early ∧
        ∀ e ∈ early, e.message ≠ "generated machine-api-operator config" ∧ e.message ≠ "wrote asset file" := by
  rcases generateInto_cases source.quiet_resolver w s with ⟨e, v, failed, other, early, told, quiet⟩ |
    ⟨config, u, ⟨early, told, quiet⟩, course⟩
  · rw [failed]
    have silent := fun e member => Event.isOutput_eq_false.1 (quiet e member)
    cases e with
    | output cause => exact absurd rfl (other cause)
    | _ => exact ⟨early, told, silent⟩
  · have silent := fun e member => Event.isOutput_eq_false.1 (quiet e member)
    have start : (u.reporting (generated config)).events = w.events ++ early ++ [generated config] :=
      congrArg (· ++ [generated config]) told
    have reported := OutputDirectory.write_reports (u.reporting (generated config)) ⟨s.output⟩ [config.marshal]
    rw [course, runFrom_adapt]
    rcases done : runFrom (u.reporting (generated config)) (OutputDirectory.write ⟨s.output⟩ [config.marshal])
      with ⟨e | paths, v⟩
    · rw [done] at reported
      refine ⟨early, config.provider, config.marshal.digest, ?_, silent⟩
      cases e with
      | directory path cause => exact reported.trans start
      | file path cause =>
        obtain ⟨before, f, after, whole, _, events⟩ := reported
        -- There is only one file, so none is written before the one that fails.
        cases before with
        | nil =>
          rw [List.map_nil, List.append_nil] at events
          exact events.trans start
        | cons g before => simp at whole
    · rw [done] at reported
      obtain ⟨files, _, written, rfl, rfl⟩ := OutputDirectory.runFrom_write_singleton_eq_ok.1 done
      refine ⟨early, config.provider, _, config.marshal.data, rfl, rfl, File.Tree.read_write written, ?_, silent, ?_⟩
      · have events := reported.2.trans (congrArg (· ++ [OutputDirectory.written ⟨s.output⟩ config.marshal]) start)
        rw [List.append_assoc, written_marshal, generated_eq] at events
        exact events
      · exact ⟨Digest.short_nameOf _, Digest.hexOf_digits _⟩

end Generator
end MachineOperator
