import MachineOperator.Proofs.Documents
import MachineOperator.Proofs.OperatorConfig.Document
import MachineOperator.Proofs.Yaml.Given

/-!
The numbers of machines that documents ask for. A document that is otherwise acceptable is accepted exactly if the number
fits the place where it stands, and then it is the number that is read.
-/
namespace MachineOperator
open Yaml

namespace Yaml.Document
variable {n : Int} {d d' : Document}

/-- The same document apart from numbers, of which those in the second are `n`. -/
structure Varied (n : Int) (d d' : Document) : Prop where
  root : d.root.Varied n d'.root
  closed : d'.close = d.close

theorem readRoot_of_varied {s : Schema} {v : s.Carrier} (varied : d.Varied n d') (suits : s.Suits n)
    (read : d.readRoot s = .ok v) : ∃ w, d'.readRoot s = .ok w ∧ s.Akin n v w := by
  obtain ⟨k, read⟩ := readRoot_iff_read.1 read
  obtain ⟨w, read', akin⟩ :=
    s.follows_read (aliases_of_varied varied.root) suits [] [] rfl varied.root 0 v k read
  exact ⟨w, readRoot_iff_read.2 ⟨k, read'⟩, akin⟩

end Yaml.Document

/-! The settings for a provider ask for a number of machines. -/

namespace OperatorConfig
variable {n : Int} {d d' : Yaml.Document} {c : OperatorConfig} {provider : Provider}

def AsksFor (d : Yaml.Document) (provider : Provider) (n : Int) : Prop :=
  ∃ settings number, d.aliases.Entry d.root provider.name settings ∧ d.aliases.Entry settings "replicas" number ∧
    number.IsNumber n

/-- The number is read from the settings, wherever they stand. -/
theorem replicas_of_section {a : Aliases} {x settings number : Node} {path : Path} {k k' : Nat} {fields fields' : Fields}
    {expected expected' name : String} {p p' : Presence} {v : fields.Carrier}
    (known : fields.find? name = some (p, .optional (.record expected' true fields')))
    (counted : fields'.find? "replicas" = some (p', .int32)) (entry : a.Entry x name settings)
    (entry' : a.Entry settings "replicas" number) (isNumber : number.IsNumber n)
    (done : (Schema.record expected true fields).read a path x k = .ok (v, k')) :
    ∃ (u : fields'.Carrier) (r : Int32),
      fields.get? v name = some ⟨.optional (.record expected' true fields'), (some u : Option fields'.Carrier)⟩ ∧
        fields'.get? u "replicas" = some ⟨.int32, r⟩ ∧ (-2 ^ 31 ≤ n ∧ n ≤ 2 ^ 31 - 1) ∧ r.toInt = n := by
  obtain ⟨w, _, _, _, option, got⟩ := Schema.get?_of_entry known entry (Node.follow_of_entry entry') done
  obtain ⟨u, _, rfl, record⟩ :=
    Schema.some_of_present (Node.follow_of_entry entry') (Node.isPresent_of_entry entry') option
  obtain ⟨r, _, _, _, integer, got'⟩ := Schema.get?_of_entry counted entry' (Node.follow_of_isNumber isNumber) record
  obtain ⟨range, same⟩ := Node.int32_of_isNumber isNumber integer
  exact ⟨u, r, got, got', range, same⟩

theorem settings_of_ofConfig (c : OperatorConfig) :
    (∀ s, (Document.ofConfig c).aws = some s → c.settings = .aws s) ∧
      (∀ s, (Document.ofConfig c).libvirt = some s → c.settings = .libvirt s) ∧
      ∀ s, (Document.ofConfig c).openstack = some s → c.settings = .openstack s := by
  obtain ⟨_, _, _, _, settings⟩ := c
  cases settings <;> simp [Document.ofConfig, Section.aws?, Section.libvirt?, Section.openstack?]

/-- A configuration has the number that its document asks for, and no other could stand there. -/
theorem replicas_of_asksFor (asks : AsksFor d provider n) (read : ofDocument d = .ok c) :
    (-2 ^ 31 ≤ n ∧ n ≤ 2 ^ 31 - 1) ∧ c.provider = provider ∧ c.replicas.toInt = n := by
  obtain ⟨settings, number, entry, entry', isNumber⟩ := asks
  obtain ⟨v, root, accepted, _⟩ := ofDocument_eq_ok.1 read
  obtain ⟨k, root⟩ := Document.readRoot_iff_read.1 root
  obtain ⟨isAws, isLibvirt, isOpenStack⟩ := settings_of_ofConfig c
  rw [← Document.toConfig_eq_ok.1 accepted] at isAws isLibvirt isOpenStack
  obtain ⟨_, _, _, _, _, aws, libvirt, openstack, _⟩ := v
  rw [OperatorConfig.provider, OperatorConfig.replicas]
  cases provider with
  | aws =>
    obtain ⟨u, r, got, got', range, same⟩ :=
      replicas_of_section rfl rfl entry entry' isNumber root
    cases got
    cases got'
    rw [isAws _ rfl]
    exact ⟨range, rfl, same⟩
  | libvirt =>
    obtain ⟨u, r, got, got', range, same⟩ :=
      replicas_of_section rfl rfl entry entry' isNumber root
    cases got
    cases got'
    rw [isLibvirt _ rfl]
    exact ⟨range, rfl, same⟩
  | openstack =>
    obtain ⟨u, r, got, got', range, same⟩ :=
      replicas_of_section rfl rfl entry entry' isNumber root
    cases got
    cases got'
    rw [isOpenStack _ rfl]
    exact ⟨range, rfl, same⟩

/-- Which documents are accepted depends on the sections that they have and on the provider that they name. -/
theorem Document.exists_toConfig_iff {d : Document} :
    (∃ c, d.toConfig = .ok c) ↔ ∃ p, d.carried = [p] ∧ p.name = d.provider := by
  rw [← map_provider_sections]
  unfold toConfig
  rcases d.sections with _ | ⟨first, _ | ⟨second, others⟩⟩
  · simp
  · by_cases named : first.provider.name = d.provider <;> simp [named]
  · simp

theorem Document.carried_of_akin {v w : schema.Carrier} (akin : schema.Akin n v w) :
    (ofCarrier v).carried = (ofCarrier w).carried ∧ Varies n (ofCarrier v).provider (ofCarrier w).provider := by
  obtain ⟨_, _, _, _, provider, aws, libvirt, openstack, _⟩ := v
  obtain ⟨_, _, _, _, provider', aws', libvirt', openstack', _⟩ := w
  obtain ⟨_, _, _, _, named, awsAkin, libvirtAkin, openstackAkin, _⟩ := akin
  refine ⟨?_, named⟩
  cases awsAkin <;> cases libvirtAkin <;> cases openstackAkin <;> rfl

/-- Documents that are the same apart from numbers are accepted alike. -/
theorem accepted_of_akin {v w : Document.schema.Carrier} (akin : Document.schema.Akin n v w)
    (accepted : ∃ c, (Document.ofCarrier v).toConfig = .ok c) : ∃ c, (Document.ofCarrier w).toConfig = .ok c := by
  obtain ⟨carried, varies⟩ := Document.carried_of_akin akin
  rw [Document.exists_toConfig_iff] at accepted ⊢
  obtain ⟨p, only, named⟩ := accepted
  have word : Plain.Writes.isOther p.name = true := by cases p <;> decide
  exact ⟨p, carried ▸ only, ((varies.eq_word_iff word).1 named.symm).symm⟩

theorem schema_suits (range : -2 ^ 31 ≤ n ∧ n ≤ 2 ^ 31 - 1) : Document.schema.Suits n := by
  have fits32 : Width.fitsInt32 n = true := by simp [Width.fitsInt32]; omega
  have fits64 : Width.fitsInt64 n = true := Width.fitsInt64_of_fitsInt32 fits32
  rw [Schema.Suits, fits32, fits64]
  cases Width.fits64 n <;> decide

theorem ofDocument_of_varied (varied : d.Varied n d') (range : -2 ^ 31 ≤ n ∧ n ≤ 2 ^ 31 - 1)
    (accepted : ∃ c, ofDocument d = .ok c) : ∃ c, ofDocument d' = .ok c := by
  obtain ⟨c, read⟩ := accepted
  obtain ⟨v, root, config, closed⟩ := ofDocument_eq_ok.1 read
  obtain ⟨w, root', akin⟩ := Document.readRoot_of_varied varied (schema_suits range) root
  obtain ⟨c', config'⟩ := accepted_of_akin akin ⟨c, config⟩
  exact ⟨c', ofDocument_eq_ok.2 ⟨w, root', config', varied.closed.trans closed⟩⟩

end OperatorConfig

/-! A pool of machines asks for a number of them. -/

namespace InstallConfig
variable {n : Int} {d d' : Document} {c : InstallConfig} {i : Nat}

def AsksFor (d : Document) (i : Nat) (n : Int) : Prop :=
  ∃ machines pool number, d.aliases.Entry d.root "machines" machines ∧ d.aliases.Item machines i pool ∧
    d.aliases.Entry pool "replicas" number ∧ number.IsNumber n

/-- A pool has the number that the document asks for. -/
theorem replicas_of_asksFor (asks : AsksFor d i n) (read : ofDocument d = .ok c) :
    (-2 ^ 63 ≤ n ∧ n ≤ 2 ^ 63 - 1) ∧ ∃ pool r, c.machines[i]? = some pool ∧ pool.replicas = some r ∧ r.toInt = n := by
  obtain ⟨machines, pool, number, entry, item, entry', isNumber⟩ := asks
  obtain ⟨v, root, _, rfl⟩ := ofDocument_eq_ok.1 read
  obtain ⟨k, root⟩ := Document.readRoot_iff_read.1 root
  obtain ⟨pools, _, _, _, list, got⟩ :=
    Schema.get?_of_entry (s := .listOf MachinePool.schema) (p := .elided) rfl entry (Node.follow_of_item item) root
  obtain ⟨u, _, _, _, record, listed⟩ := Node.getElem?_of_item item (Node.follow_of_entry entry') list
  obtain ⟨w, _, _, _, option, got'⟩ :=
    Schema.get?_of_entry (s := .optional .int64) (p := .elided) rfl entry' (Node.follow_of_isNumber isNumber) record
  obtain ⟨r, _, rfl, integer⟩ :=
    Schema.some_of_present (Node.follow_of_isNumber isNumber) (Node.isPresent_of_isNumber isNumber) option
  obtain ⟨range, same⟩ := Node.int64_of_isNumber isNumber integer
  refine ⟨range, MachinePool.ofCarrier u, r, ?_, ?_, same⟩
  · obtain ⟨_, _, _, _, _, _⟩ := v
    cases got
    exact (List.getElem?_map ..).trans (congrArg (Option.map MachinePool.ofCarrier) listed)
  · obtain ⟨_, _, _⟩ := u
    cases got'
    rfl

theorem schema_suits (range : -2 ^ 63 ≤ n ∧ n ≤ 2 ^ 63 - 1) : schema.Suits n := by
  have fits64 : Width.fitsInt64 n = true := by simp [Width.fitsInt64]; omega
  have free : Width.fits64 n = true := by simp [Width.fits64]; omega
  rw [Schema.Suits, fits64, free]
  cases Width.fitsInt32 n <;> decide

theorem ofDocument_of_varied (varied : d.Varied n d') (range : -2 ^ 63 ≤ n ∧ n ≤ 2 ^ 63 - 1)
    (accepted : ∃ c, ofDocument d = .ok c) : ∃ c, ofDocument d' = .ok c := by
  obtain ⟨c, read⟩ := accepted
  obtain ⟨v, root, closed, _⟩ := ofDocument_eq_ok.1 read
  obtain ⟨w, root', _⟩ := Document.readRoot_of_varied varied (schema_suits range) root
  exact ⟨ofCarrier w, ofDocument_eq_ok.2 ⟨w, root', varied.closed.trans closed, rfl⟩⟩

end InstallConfig

/-- A document that asks for `n` machines, and is accepted with some other number in place of `n`, is accepted exactly if `n`
fits: 32 bits in the settings of a provider, 64 bits in a pool. Then `n` is the number that is read. A number that does not
fit is an error, whatever else the document says. -/
theorem replicas_read_exactly {n : Int} {d d' : Yaml.Document} (varied : d.Varied n d') :
    (∀ provider, OperatorConfig.AsksFor d' provider n →
        ((∃ c, OperatorConfig.ofDocument d = .ok c) →
          ((∃ c, OperatorConfig.ofDocument d' = .ok c) ↔ -2 ^ 31 ≤ n ∧ n ≤ 2 ^ 31 - 1)) ∧
        (∀ c, OperatorConfig.ofDocument d' = .ok c → c.provider = provider ∧ c.replicas.toInt = n) ∧
        (¬(-2 ^ 31 ≤ n ∧ n ≤ 2 ^ 31 - 1) → ∃ e, OperatorConfig.ofDocument d' = .error e)) ∧
      ∀ i, InstallConfig.AsksFor d' i n →
        ((∃ c, InstallConfig.ofDocument d = .ok c) →
          ((∃ c, InstallConfig.ofDocument d' = .ok c) ↔ -2 ^ 63 ≤ n ∧ n ≤ 2 ^ 63 - 1)) ∧
        (∀ c, InstallConfig.ofDocument d' = .ok c →
          ∃ pool r, c.machines[i]? = some pool ∧ pool.replicas = some r ∧ r.toInt = n) ∧
        (¬(-2 ^ 63 ≤ n ∧ n ≤ 2 ^ 63 - 1) → ∃ e, InstallConfig.ofDocument d' = .error e) := by
  refine ⟨fun provider asks => ⟨fun accepted => ⟨?_, ?_⟩, ?_, ?_⟩, fun i asks => ⟨fun accepted => ⟨?_, ?_⟩, ?_, ?_⟩⟩
  · exact fun ⟨c, read⟩ => (OperatorConfig.replicas_of_asksFor asks read).1
  · exact fun range => OperatorConfig.ofDocument_of_varied varied range accepted
  · exact fun c read => (OperatorConfig.replicas_of_asksFor asks read).2
  · intro outside
    cases read : OperatorConfig.ofDocument d' with
    | error e => exact ⟨e, rfl⟩
    | ok c => exact absurd (OperatorConfig.replicas_of_asksFor asks read).1 outside
  · exact fun ⟨c, read⟩ => (InstallConfig.replicas_of_asksFor asks read).1
  · exact fun range => InstallConfig.ofDocument_of_varied varied range accepted
  · exact fun c read => (InstallConfig.replicas_of_asksFor asks read).2
  · intro outside
    cases read : InstallConfig.ofDocument d' with
    | error e => exact ⟨e, rfl⟩
    | ok c => exact absurd (InstallConfig.replicas_of_asksFor asks read).1 outside

namespace Replicas.Sample

def word (text : String) : Node := .scalar {} .plain text .origin

def entry (key : String) (value : Node) : Node × Node := (word key, value)

/-- Settings that have their number of machines from elsewhere. -/
def openstack : Node :=
  .mapping {} [entry "clusterName" (word "c"), entry "clusterID" (word "i"), entry "region" (word "r"),
    entry "replicas" (.alias 0 .origin)] .origin

def settings (count : String) : Yaml.Document where
  root := .mapping {} [entry "targetNamespace" (word "n"), entry "apiServiceCA" (word "x"),
    entry "provider" (word "openstack"), entry "spare" (.scalar { anchor := some 0 } .plain count .origin),
    entry "openstack" openstack] .origin
  fault := none
  followed := false

/-- A specification with one pool. -/
def machine (count : String) : Node := .mapping {} [entry "name" (word "m"), entry "replicas" (word count)] .origin

def pool (count : String) : Yaml.Document where
  root := .mapping {} [entry "clusterID" (word "c"), entry "platform" (.mapping {} [] .origin),
    entry "machines" (.sequence {} [machine count] .origin)] .origin
  fault := none
  followed := false

variable {text text' : String} {n k : Int}

theorem varied_entry (key value : String) : Both (Node.Varied n) (entry key (word value)) (entry key (word value)) :=
  .mk (.scalar ..) (.scalar ..)

theorem settings_varied (before : Plain.Writes text k) (after : Plain.Writes text' n) :
    (settings text).Varied n (settings text') := by
  have spare : Both (Node.Varied n) (entry "spare" (.scalar { anchor := some 0 } .plain text .origin))
      (entry "spare" (.scalar { anchor := some 0 } .plain text' .origin)) :=
    .mk (.scalar ..) (.number _ _ rfl before after)
  have alike : Both (Node.Varied n) (entry "replicas" (.alias 0 .origin)) (entry "replicas" (.alias 0 .origin)) :=
    .mk (.scalar ..) (.aliased ..)
  refine ⟨.mapping _ _ _ (.cons (varied_entry ..) (.cons (varied_entry ..) (.cons (varied_entry ..)
    (.cons spare (.cons (.mk (.scalar ..) (.mapping _ _ _ ?_)) .nil))))), rfl⟩
  exact .cons (varied_entry ..) (.cons (varied_entry ..) (.cons (varied_entry ..) (.cons alike .nil)))

theorem settings_asksFor (writes : Plain.Writes text n) : OperatorConfig.AsksFor (settings text) .openstack n := by
  refine ⟨openstack, .scalar { anchor := some 0 } .plain text .origin, ?_, ?_, ⟨writes⟩⟩
  · exact .mk (.tail _ (.tail _ (.tail _ (.tail _ (.head _))))) (.itself _) (.itself _)
  · exact .mk (.tail _ (.tail _ (.tail _ (.head _)))) (.itself _) (.anchored _ rfl)

theorem pool_varied (before : Plain.Writes text k) (after : Plain.Writes text' n) :
    (pool text).Varied n (pool text') := by
  have counted : Both (Node.Varied n) (entry "replicas" (word text)) (entry "replicas" (word text')) :=
    .mk (.scalar ..) (.number _ _ rfl before after)
  have platform : Both (Node.Varied n) (entry "platform" (.mapping {} [] .origin))
      (entry "platform" (.mapping {} [] .origin)) := .mk (.scalar ..) (.mapping _ _ _ .nil)
  refine ⟨.mapping _ _ _ (.cons (varied_entry ..) (.cons platform (.cons (.mk (.scalar ..) ?_) .nil))), rfl⟩
  exact .sequence _ _ _ (.cons (.mapping _ _ _ (.cons (varied_entry ..) (.cons counted .nil))) .nil)

theorem pool_asksFor (writes : Plain.Writes text n) : InstallConfig.AsksFor (pool text) 0 n := by
  refine ⟨.sequence {} [machine text] .origin, machine text, word text, ?_, ?_, ?_, ⟨writes⟩⟩
  · exact .mk (.tail _ (.tail _ (.head _))) (.itself _) (.itself _)
  · exact .mk rfl (.itself _)
  · exact .mk (.tail _ (.head _)) (.itself _) (.itself _)

theorem replicas_read_exactly_sample :
    (∃ c, OperatorConfig.ofDocument (settings "-2147483648") = .ok c ∧ c.replicas.toInt = -2147483648) ∧
      (∃ e, OperatorConfig.ofDocument (settings "2147483648") = .error e) ∧
      (∃ c, InstallConfig.ofDocument (pool "2147483648") = .ok c) ∧
      ∃ e, InstallConfig.ofDocument (pool "9223372036854775808") = .error e := by
  have few : Plain.Writes "3" 3 := .inl rfl
  have least : Plain.Writes "-2147483648" (-2147483648) := .inl rfl
  have large : Plain.Writes "2147483648" 2147483648 := .inl rfl
  have tooLarge : Plain.Writes "9223372036854775808" 9223372036854775808 := .inl rfl
  obtain ⟨decodes, exactly, _⟩ :=
    (replicas_read_exactly (settings_varied few least)).1 .openstack (settings_asksFor least)
  obtain ⟨_, _, wide⟩ := (replicas_read_exactly (settings_varied few large)).1 .openstack (settings_asksFor large)
  obtain ⟨decodes', _⟩ := (replicas_read_exactly (pool_varied few large)).2 0 (pool_asksFor large)
  obtain ⟨_, _, wide'⟩ := (replicas_read_exactly (pool_varied few tooLarge)).2 0 (pool_asksFor tooLarge)
  obtain ⟨c, read⟩ := (decodes ⟨_, rfl⟩).2 (by decide)
  exact ⟨⟨c, read, (exactly c read).2⟩, wide (by decide), (decodes' ⟨_, rfl⟩).2 (by decide), wide' (by decide)⟩

end Replicas.Sample

end MachineOperator
