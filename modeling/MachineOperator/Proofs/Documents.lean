import MachineOperator.InstallConfig
import MachineOperator.OperatorConfig.File
import MachineOperator.Proofs.Result
import MachineOperator.Proofs.Yaml.Rearranged
import Mathlib.Logic.Relation

/-!
Specifications and configurations as trees. What is read from a tree does not depend on the order of a record, on entries
that nobody knows, and on nulls where nothing needs to stand; a field that is given twice is refused.
-/
namespace MachineOperator
open Yaml Relation

/-! A document without anchors, aliases and tags is read as its content says. -/

namespace Yaml.Document
variable {d d' : Document} {s : Schema} {c c' : Content} {v : s.Carrier}

theorem readRoot_iff_read : d.readRoot s = .ok v ↔ ∃ k, s.read d.aliases [] d.root 0 = .ok (v, k) := by
  have counted : d.readRoot s = (s.read d.aliases [] d.root 0).map (·.1) := rfl
  rw [counted, map_eq_ok]
  constructor
  · rintro ⟨⟨w, k⟩, read, rfl⟩
    exact ⟨k, read⟩
  · exact fun ⟨k, read⟩ => ⟨(v, k), read, rfl⟩

theorem readRoot_eq_ok (holds : d.root.content? = some c) : d.readRoot s = .ok v ↔ s.value? 0 c = some v := by
  have gives := s.gives_read d.aliases [] holds
  rw [readRoot_iff_read]
  constructor
  · exact fun ⟨k, read⟩ => (gives.eq_ok.1 read).1
  · exact fun said => ⟨0, gives.eq_ok.2 ⟨said, rfl⟩⟩

/-- Any number of changes that do not count leave what is read. -/
theorem readRoot_of_rearranged (holds : d.root.content? = some c) (holds' : d'.root.content? = some c')
    (moved : ReflTransGen s.Rearranged c c') (read : d.readRoot s = .ok v) : d'.readRoot s = .ok v := by
  rw [readRoot_eq_ok holds] at read
  rw [readRoot_eq_ok holds']
  clear holds'
  induction moved with
  | refl => exact read
  | tail _ step ih => exact step.value?_eq_some 0 ih

theorem readRoot_of_repeats (holds : d.root.content? = some c) (repeated : s.Repeats c) :
    ∃ e, d.readRoot s = .error e := by
  cases read : d.readRoot s with
  | error e => exact ⟨e, rfl⟩
  | ok v => cases (repeated.value?_eq_none 0).symm.trans ((readRoot_eq_ok holds).1 read)

end Yaml.Document

namespace InstallConfig

/-- The specification that a document holds. -/
def ofDocument (d : Document) : Except ReadError InstallConfig := (d.read schema).map ofCarrier

theorem parse_eq (text : String) : parse text = ofDocument (.ofString text) := rfl

theorem ofDocument_eq_ok {d : Document} {c : InstallConfig} :
    ofDocument d = .ok c ↔ ∃ v, d.readRoot schema = .ok v ∧ d.close = .ok () ∧ ofCarrier v = c := by
  rw [ofDocument, Document.read, map_eq_ok]
  constructor
  · rintro ⟨v, read, rfl⟩
    obtain ⟨w, root, ended⟩ := bind_eq_ok.1 read
    obtain ⟨_, closed, same⟩ := bind_eq_ok.1 ended
    cases same
    exact ⟨v, root, closed, rfl⟩
  · rintro ⟨v, root, closed, rfl⟩
    exact ⟨v, bind_eq_ok.2 ⟨v, root, bind_eq_ok.2 ⟨(), closed, rfl⟩⟩, rfl⟩

end InstallConfig

namespace OperatorConfig

theorem ofDocument_eq_ok {d : Yaml.Document} {c : OperatorConfig} :
    ofDocument d = .ok c ↔
      ∃ v, d.readRoot Document.schema = .ok v ∧ (Document.ofCarrier v).toConfig = .ok c ∧ d.close = .ok () := by
  unfold ofDocument
  simp only [bind_eq_ok, mapError_eq_ok, pure, Except.pure, Except.ok.injEq]
  constructor
  · rintro ⟨v, root, _, config, _, closed, rfl⟩
    exact ⟨v, root, config, closed⟩
  · rintro ⟨v, root, config, closed⟩
    exact ⟨v, root, c, config, (), closed, rfl⟩

end OperatorConfig

/-! All that is known of either document: its records, whether they refuse repeats, and the keys of their fields, with their
presence and whether a null may stand for what is absent. -/

theorem InstallConfig.records_eq :
    schema.records =
      [("struct InstallConfig", true,
          [("metadata", .defaulted, false), ("clusterID", .required, false), ("baseDomain", .elided, true),
            ("machines", .elided, false), ("platform", .required, false)]),
        ("ObjectMeta", false,
          [("annotations", .elided, true), ("creationTimestamp", .elided, true),
            ("deletionGracePeriodSeconds", .elided, true), ("deletionTimestamp", .elided, true),
            ("finalizers", .elided, true), ("generateName", .elided, true), ("generation", .elided, true),
            ("labels", .elided, true), ("managedFields", .elided, true), ("name", .elided, true),
            ("namespace", .elided, true), ("ownerReferences", .elided, true), ("resourceVersion", .elided, true),
            ("selfLink", .elided, true), ("uid", .elided, true)]),
        ("ManagedFieldsEntry", false,
          [("apiVersion", .elided, true), ("fieldsType", .elided, true), ("fieldsV1", .elided, true),
            ("manager", .elided, true), ("operation", .elided, true), ("subresource", .elided, true),
            ("time", .elided, true)]),
        ("OwnerReference", false,
          [("apiVersion", .defaulted, false), ("blockOwnerDeletion", .elided, true), ("controller", .elided, true),
            ("kind", .defaulted, false), ("name", .defaulted, false), ("uid", .defaulted, false)]),
        ("struct MachinePool", true, [("name", .required, false), ("replicas", .elided, true)]),
        ("struct Platform", true, [("aws", .elided, true), ("libvirt", .elided, true), ("openstack", .elided, true)]),
        ("struct AwsPlatform", true,
          [("region", .required, false), ("vpcCIDRBlock", .elided, true), ("userTags", .elided, false)]),
        ("struct LibvirtPlatform", true, [("URI", .required, false), ("network", .required, false)]),
        ("struct LibvirtNetwork", true, [("if", .required, false), ("ipRange", .required, false)]),
        ("struct OpenStackPlatform", true,
          [("region", .required, false), ("baseImage", .elided, true), ("cloud", .elided, true),
            ("externalNetwork", .elided, true)])] := rfl

theorem OperatorConfig.Document.records_eq :
    schema.records =
      [("struct OperatorConfigDocument", true,
          [("apiVersion", .defaulted, false), ("kind", .defaulted, false), ("targetNamespace", .required, false),
            ("apiServiceCA", .required, false), ("provider", .required, false), ("aws", .defaulted, true),
            ("libvirt", .defaulted, true), ("openstack", .defaulted, true)]),
        ("struct AwsConfig", true,
          [("clusterName", .required, false), ("clusterID", .required, false), ("region", .required, false),
            ("availabilityZone", .required, false), ("image", .required, false), ("replicas", .required, false)]),
        ("struct LibvirtConfig", true,
          [("clusterName", .required, false), ("uri", .required, false), ("networkName", .required, false),
            ("iprange", .required, false), ("replicas", .required, false)]),
        ("struct OpenStackConfig", true,
          [("clusterName", .required, false), ("clusterID", .required, false), ("region", .required, false),
            ("replicas", .required, false)])] := rfl

/-- Trees are read as the same specification, or as the same configuration, if one comes from the other by changes of the
order of records, by entries that no record knows, and by nulls that are left out where nothing needs to stand. A tree in
which a field is given twice is neither. -/
theorem ofDocument_of_rearranged {d d' : Yaml.Document} {c c' : Content} (holds : d.root.content? = some c)
    (holds' : d'.root.content? = some c') (ended : d'.close = d.close) :
    (ReflTransGen InstallConfig.schema.Rearranged c c' → ∀ config,
        InstallConfig.ofDocument d = .ok config → InstallConfig.ofDocument d' = .ok config) ∧
      (InstallConfig.schema.Repeats c → ∃ e, InstallConfig.ofDocument d = .error e) ∧
      (ReflTransGen OperatorConfig.Document.schema.Rearranged c c' → ∀ config,
        OperatorConfig.ofDocument d = .ok config → OperatorConfig.ofDocument d' = .ok config) ∧
      (OperatorConfig.Document.schema.Repeats c → ∃ e, OperatorConfig.ofDocument d = .error e) := by
  refine ⟨fun moved config read => ?_, fun repeated => ?_, fun moved config read => ?_, fun repeated => ?_⟩
  · obtain ⟨v, root, closed, same⟩ := InstallConfig.ofDocument_eq_ok.1 read
    have root' := Document.readRoot_of_rearranged holds holds' moved root
    exact InstallConfig.ofDocument_eq_ok.2 ⟨v, root', ended.trans closed, same⟩
  · obtain ⟨e, root⟩ := Document.readRoot_of_repeats holds repeated
    exact ⟨e, by rw [InstallConfig.ofDocument, Document.read, root]; rfl⟩
  · obtain ⟨v, root, accepted, closed⟩ := OperatorConfig.ofDocument_eq_ok.1 read
    have root' := Document.readRoot_of_rearranged holds holds' moved root
    exact OperatorConfig.ofDocument_eq_ok.2 ⟨v, root', accepted, ended.trans closed⟩
  · obtain ⟨e, root⟩ := Document.readRoot_of_repeats holds repeated
    exact ⟨.unreadable e, by rw [OperatorConfig.ofDocument, root]; rfl⟩

namespace Documents.Sample

def word (text : String) : Content := .scalar .plain text

def entry (key : String) (value : Content) : Content × Content := (word key, value)

def single (c : Content) : Document := ⟨c.toNode, none, false⟩

def region : Content × Content := entry "region" (word "r")

/-- A specification with nulls, of which only the ID and the region count. -/
def specification : Content :=
  .mapping [entry "platform" (.mapping [entry "aws" (.mapping [region, entry "vpcCIDRBlock" (word "~")])]),
    entry "clusterID" (word "c"), entry "baseDomain" (word "")]

/-- The same in another order, without the nulls and with an entry that the platform does not know. -/
def rearranged : Content :=
  .mapping [entry "clusterID" (word "c"),
    entry "platform" (.mapping [entry "aws" (.mapping [region]), entry "zone" (.sequence [word "a"])])]

theorem specification_rearranged : ReflTransGen InstallConfig.schema.Rearranged specification rearranged := by
  refine .head (.field [] [entry "clusterID" (word "c"), entry "baseDomain" (word "")] .plain "platform" rfl
    (.field [] [] .plain "aws" rfl (.present (.of_null [region] [] .plain rfl (by decide) rfl)))) ?_
  refine .head (.field [] [entry "clusterID" (word "c"), entry "baseDomain" (word "")] .plain "platform" rfl
    (.inserted [entry "aws" (.mapping [region])] [] .plain "zone" (.sequence [word "a"]) (by decide))) ?_
  refine .head (.of_null [_, _] [] .plain rfl (by decide) rfl) ?_
  exact .single (.reordered (.swap _ _ _) (by decide))

/-- An ID that is given twice is refused, also where both say the same. -/
def repeated : Content := .mapping [entry "clusterID" (word "c"), entry "clusterID" (word "c")]

theorem repeated_repeats : InstallConfig.schema.Repeats repeated :=
  .here [] [] [] .plain .plain "clusterID" (word "c") (word "c") (by decide)

/-- Settings for one provider, with a null where another's could stand. -/
def settings (region : List (Content × Content)) (others : List (Content × Content)) : Content :=
  .mapping ([entry "targetNamespace" (word "n"), entry "apiServiceCA" (word "x"), entry "provider" (word "openstack"),
    entry "openstack" (.mapping (region ++ [entry "clusterName" (word "c"), entry "clusterID" (word "i"),
      entry "replicas" (word "3")]))] ++ others)

theorem settings_rearranged :
    OperatorConfig.Document.schema.Rearranged (settings [region] [entry "aws" (word "null")]) (settings [region] []) :=
  .of_null [_, _, _, _] [] .plain rfl (by decide) rfl

theorem settings_repeats : OperatorConfig.Document.schema.Repeats (settings [region, region] []) :=
  .field [_, _, _] [] .plain "openstack" rfl (.present (.here [] [] _ .plain .plain "region" _ _ (by decide)))

theorem ofDocument_of_rearranged_sample :
    InstallConfig.ofDocument (single rearranged) =
        .ok { clusterId := "c", platform := { aws := some { region := "r" } } } ∧
      (∃ e, InstallConfig.ofDocument (single repeated) = .error e) ∧
      (∃ config, config.replicas = 3 ∧ OperatorConfig.ofDocument (single (settings [region] [])) = .ok config) ∧
      ∃ e, OperatorConfig.ofDocument (single (settings [region, region] [])) = .error e := by
  have tree (c : Content) : (single c).root.content? = some c := c.content?_toNode
  obtain ⟨alike, _⟩ := ofDocument_of_rearranged (tree specification) (tree rearranged) rfl
  obtain ⟨_, twice, _⟩ := ofDocument_of_rearranged (tree repeated) (tree repeated) rfl
  obtain ⟨_, _, alike', _⟩ :=
    ofDocument_of_rearranged (tree (settings [region] [entry "aws" (word "null")])) (tree (settings [region] [])) rfl
  obtain ⟨_, _, _, refused⟩ :=
    ofDocument_of_rearranged (tree (settings [region, region] [])) (tree (settings [region, region] [])) rfl
  have trusted := alike' (.single settings_rearranged)
    { apiVersion := "", kind := "", targetNamespace := "n", apiServiceCa := "x"
      settings := .openstack { clusterName := "c", clusterId := "i", region := "r", replicas := 3 } } rfl
  exact ⟨alike specification_rearranged _ rfl, twice repeated_repeats, ⟨_, rfl, trusted⟩, refused settings_repeats⟩

end Documents.Sample
end MachineOperator
