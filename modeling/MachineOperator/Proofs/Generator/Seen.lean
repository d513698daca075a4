import MachineOperator.Proofs.File.Shape
import MachineOperator.Proofs.Generator

/-!
What is seen of runs. Where two certificates are accepted, a run with the one and a run with the other give the same, ask
the same of servers, and report the same but for the size and the digest of what is written.
-/
namespace MachineOperator

/-- The fields of an event that say how large a file is and what is in it. -/
def Event.contentFields : List String := ["bytes", "digest"]

/-- An event without what it says of the content of files. -/
def Event.coarse (e : Event) : Level × String × String × List (String × Event.Value) :=
  (e.level, e.source, e.message, e.fields.filter fun field => field.1 ∉ Event.contentFields)

theorem Event.coarse_generated (filename : String) (provider : Provider) (digest digest' : String) :
    (generated filename provider digest).coarse = (generated filename provider digest').coarse := by
  simp [coarse, contentFields, fields, level, source, message]

theorem Event.coarse_fileWritten (path : File.Path) (size size' : Nat) (digest digest' : String) :
    (fileWritten path size digest).coarse = (fileWritten path size' digest').coarse := by
  simp [coarse, contentFields, fields, level, source, message]

/-- Two programs, run from two worlds to two others, ask the same addresses and report the same but for the content of
files. -/
def SeenAlike (w w' v v' : World) : Prop :=
  ∃ asked told told', w'.requests = w.requests ++ asked ∧ v'.requests = v.requests ++ asked ∧
    w'.events = w.events ++ told ∧ v'.events = v.events ++ told' ∧ told'.map Event.coarse = told.map Event.coarse

namespace SeenAlike
variable {w w' w'' v v' v'' : World}

/-- Nothing is asked and nothing is reported. -/
theorem of_eq (requests : w'.requests = w.requests) (requests' : v'.requests = v.requests)
    (events : w'.events = w.events) (events' : v'.events = v.events) : SeenAlike w w' v v' :=
  ⟨[], [], [], by simpa using requests, by simpa using requests', by simpa using events, by simpa using events', rfl⟩

theorem trans (first : SeenAlike w w' v v') (second : SeenAlike w' w'' v' v'') : SeenAlike w w'' v v'' := by
  obtain ⟨asked, told, told', requests, requests', events, events', same⟩ := first
  obtain ⟨later, more, more', rest, rest', others, others', same'⟩ := second
  refine ⟨asked ++ later, told ++ more, told' ++ more', ?_, ?_, ?_, ?_, ?_⟩
  · rw [rest, requests, List.append_assoc]
  · rw [rest', requests', List.append_assoc]
  · rw [others, events, List.append_assoc]
  · rw [others', events', List.append_assoc]
  · rw [List.map_append, List.map_append, same, same']

/-- Events are reported that differ at most in what they say of the content of files. -/
theorem reporting (w v : World) {e e' : Event} (same : e'.coarse = e.coarse) :
    SeenAlike w (w.reporting e) v (v.reporting e') :=
  ⟨[], [e], [e'], (List.append_nil _).symm, (List.append_nil _).symm, rfl, rfl, congrArg ([·]) same⟩

theorem inquiring (w v : World) (i : Inquiry α) : SeenAlike w (w.inquiring i) v (v.inquiring i) :=
  ⟨i.asked, i.told, i.told, rfl, rfl, rfl, rfl, rfl⟩

end SeenAlike

/-- A file is written under the same name in trees of one shape. What it holds makes no difference to what is seen. -/
theorem OutputDirectory.write_seenAlike {w v : World} (same : File.Tree.SameShape w.files v.files) (d : OutputDirectory)
    {f g : AssetFile} (named : g.filename = f.filename) :
    (runFrom v (d.write [g])).1 = (runFrom w (d.write [f])).1 ∧
      SeenAlike w (runFrom w (d.write [f])).2 v (runFrom v (d.write [g])).2 := by
  obtain ⟨result, shape⟩ := same.createAll d.path
  rw [runFrom_write_singleton, runFrom_write_singleton, result, named]
  rcases (w.files.createAll d.path).1 with cause | _
  · exact ⟨rfl, .of_eq rfl rfl rfl rfl⟩
  · dsimp only
    rcases shape.write (d.path.join f.filename) f.data g.data with ⟨e, here, there⟩ | ⟨t, u, here, there, _⟩
    · rw [making, making, here, there]
      exact ⟨rfl, .of_eq rfl rfl rfl rfl⟩
    · rw [making, making, here, there]
      have written := SeenAlike.reporting { w with files := t } { v with files := u }
        (Event.coarse_fileWritten (d.path.join f.filename) g.data.size f.data.size (Digest.short g.digest)
          (Digest.short f.digest))
      exact ⟨rfl, .trans (.of_eq rfl rfl rfl rfl) written⟩

namespace Generator
variable {w v : World} {authority authority' : CertificateAuthority}

theorem ready_seenAlike (w v : World) (s : Settings) (named : authority'.name = authority.name) :
    SeenAlike w (ready w s authority) v (ready v s authority') := by
  rw [ready, ready, named]
  exact .trans (.reporting w v rfl) (.trans (.reporting _ _ rfl) (.reporting _ _ rfl))

/-- A file that is generated is reported and written. -/
theorem output_seenAlike (shape : File.Tree.SameShape w.files v.files) (d : OutputDirectory) (provider : Provider)
    {f g : AssetFile} (named : g.filename = f.filename) :
    (runFrom (v.reporting (.generated g.filename provider g.digest)) (d.write [g])).1 =
        (runFrom (w.reporting (.generated f.filename provider f.digest)) (d.write [f])).1 ∧
      SeenAlike w (runFrom (w.reporting (.generated f.filename provider f.digest)) (d.write [f])).2
        v (runFrom (v.reporting (.generated g.filename provider g.digest)) (d.write [g])).2 := by
  rw [named]
  have reported := SeenAlike.reporting w v (Event.coarse_generated f.filename provider g.digest f.digest)
  obtain ⟨result, written⟩ := d.write_seenAlike (w := w.reporting (.generated f.filename provider f.digest))
    (v := v.reporting (.generated f.filename provider g.digest)) shape named
  exact ⟨result, reported.trans written⟩

/-- What is seen from a certificate on that is accepted. -/
theorem generateInto_seenAlike {s : Settings} {resolve : Resolver (StateM World)}
    (inquires : ∀ channel region, Inquires (resolve channel region).run) (servers : v.network = w.network)
    (shape : File.Tree.SameShape w.files v.files)
    (specified : specification v.files s.installConfig = specification w.files s.installConfig)
    (trusted : certificate w.files s.authority = .ok authority)
    (trusted' : certificate v.files s.authority = .ok authority') :
    (runFrom v (generateInto s resolve)).1 = (runFrom w (generateInto s resolve)).1 ∧
      SeenAlike w (runFrom w (generateInto s resolve)).2 v (runFrom v (generateInto s resolve)).2 := by
  have named : authority'.name = authority.name := by rw [name_of_certificate trusted, name_of_certificate trusted']
  rw [runFrom_generateInto, runFrom_generateInto, specified, trusted, trusted']
  rcases specification w.files s.installConfig with e | cluster
  · exact ⟨rfl, .of_eq rfl rfl rfl rfl⟩
  · dsimp only
    obtain ⟨i, generated⟩ := OperatorConfig.exists_inquiry inquires cluster w.network
    rw [generated (ready w s authority) authority rfl, generated (ready v s authority') authority' servers]
    -- The certificate is added only when nothing is left to ask, so both worlds have come equally far.
    have before : SeenAlike w ((ready w s authority).inquiring i) v ((ready v s authority').inquiring i) :=
      .trans (ready_seenAlike w v s named) (.inquiring _ _ i)
    rcases i.answer with cause | settings
    · exact ⟨rfl, before⟩
    · obtain ⟨result, after⟩ := output_seenAlike (w := (ready w s authority).inquiring i)
        (v := (ready v s authority').inquiring i) shape ⟨s.output⟩ settings.provider
        (f := (OperatorConfig.trusting authority.pem settings).marshal)
        (g := (OperatorConfig.trusting authority'.pem settings).marshal) rfl
      dsimp only [Except.map]
      rw [runFrom_adapt, runFrom_adapt]
      exact ⟨congrArg (Except.mapError Error.output) result, before.trans after⟩

/-- In two worlds with the same servers, and the same files but for the one that the certificate is read from, where a
certificate is accepted in both, what comes of generating is the same, the same addresses are asked, and the same is
reported but for the size and the digest of the file that is written. -/
theorem generateInto_conceals [Url.NameRules] (source : ImageSource) (s : Settings) {l : File.Location} {n : File.Node}
    (servers : v.network = w.network) (alike : File.Tree.AlikeBut l w.files v.files)
    (here : w.files.find s.authority = .ok (l, n)) (apart : ∀ m, w.files.find s.installConfig ≠ .ok (l, m))
    (accepted : (runFrom w (readAuthority s.authority)).1 = .ok authority)
    (accepted' : (runFrom v (readAuthority s.authority)).1 = .ok authority') :
    (runFrom v (generateInto s source.resolver)).1 = (runFrom w (generateInto s source.resolver)).1 ∧
      SeenAlike w (runFrom w (generateInto s source.resolver)).2 v (runFrom v (generateInto s source.resolver)).2 := by
  have trusted := readAuthority_eq_ok.1 accepted
  have trusted' := readAuthority_eq_ok.1 accepted'
  obtain ⟨k, data, found⟩ := find_of_certificate trusted
  obtain ⟨k', data', found'⟩ := find_of_certificate trusted'
  cases here.symm.trans found
  cases File.Tree.eq_of_find alike.start found found'
  have shape := alike.sameShape (File.Tree.find_eq_ok.1 found).2.2 (File.Tree.find_eq_ok.1 found').2.2
  have specified := specification_congr (shape.read (fun k => alike.node?_eq) apart)
  exact generateInto_seenAlike source.inquires_resolver servers shape specified trusted trusted'

/-- With the sample's certificate and with a longer one the same file is written, and the same is seen of it. -/
theorem generateInto_conceals_sample :
    let v : World := { sampleWorld with files := sampleWorld.files.put ["c"] (.file (Sample.pem ++ "more").toUTF8) }
    let resolve : Resolver (StateM World) := (ImageSource.ofSettings sampleSettings).resolver
    (∃ paths, (runFrom sampleWorld (generateInto sampleSettings resolve)).1 = .ok paths ∧
        (runFrom v (generateInto sampleSettings resolve)).1 = .ok paths) ∧
      SeenAlike sampleWorld (runFrom sampleWorld (generateInto sampleSettings resolve)).2
        v (runFrom v (generateInto sampleSettings resolve)).2 := by
  intro v resolve
  let longer : CertificateAuthority := ⟨authorityName, Sample.pem ++ "more", by decide +kernel⟩
  have alike : File.Tree.AlikeBut ["c"] sampleWorld.files v.files :=
    { start := rfl
      elsewhere := fun k other => (Dict.get?_insert ..).trans (if_neg other)
      left := by decide +kernel
      right := by decide +kernel }
  have specified : sampleWorld.files.find ⟨"i"⟩ = .ok (["i"], .file sampleCluster.render.toUTF8) := rfl
  have apart (m : File.Node) : sampleWorld.files.find ⟨"i"⟩ ≠ .ok (["c"], m) := by
    rw [specified]
    simp
  have trusted : certificate sampleWorld.files ⟨"c"⟩ = .ok Sample.authority :=
    certificate_eq_ok.2 sample_stages.certificate
  have trusted' : certificate v.files ⟨"c"⟩ = .ok longer :=
    certificate_eq_ok.2 ⟨longer.pem, rfl, ofPem_eq_ok.2 ⟨rfl, rfl⟩⟩
  have here : sampleWorld.files.find sampleSettings.authority = .ok (["c"], .file Sample.pem.toUTF8) := rfl
  have servers : v.network = sampleWorld.network := rfl
  obtain ⟨same, seen⟩ := generateInto_conceals (ImageSource.ofSettings sampleSettings) sampleSettings servers alike here apart
    (readAuthority_eq_ok.2 trusted) (readAuthority_eq_ok.2 trusted')
  obtain ⟨paths, w', done, _⟩ :=
    generateInto_of_stages (ImageSource.ofSettings sampleSettings).inquires_resolver sample_stages
  rw [done] at same
  exact ⟨⟨paths, congrArg Prod.fst done, same⟩, seen⟩

end Generator
end MachineOperator
