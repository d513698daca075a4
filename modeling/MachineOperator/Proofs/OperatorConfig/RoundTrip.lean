import MachineOperator.OperatorConfig.File
import MachineOperator.Proofs.OperatorConfig.Document
import MachineOperator.Proofs.Result
import MachineOperator.Proofs.Yaml.Schema

/-!
Configurations in files. A configuration is decoded from the file that it is marshalled to, and other readers of the
file see text where the configuration has text, a number where it has a number, and null where another provider's
settings would stand.
-/
namespace MachineOperator.OperatorConfig
open Yaml

namespace Document

theorem ofCarrier_toCarrier (d : Document) : ofCarrier d.toCarrier = d := by
  simp [ofCarrier, toCarrier, Function.comp_def]

theorem legible (x : schema.Carrier) : schema.Legible x := Schema.legible_of_isLegible schema (by decide) x

end Document

theorem decode_render (c : OperatorConfig) : decode c.render.toUTF8 = .ok c := by
  obtain ⟨read, closed⟩ := Yaml.Document.readRoot_render (Document.legible (Document.ofConfig c).toCarrier)
  rw [decode, render, toValue, ofDocument, read, closed]
  simp only [mapError_ok, bind_ok, Document.ofCarrier_toCarrier, Document.toConfig_ofConfig]
  rfl

theorem marshal_data (c : OperatorConfig) : c.marshal.data = c.render.toUTF8 := by
  rw [marshal]

/-- Marshalling loses nothing: a configuration is decoded from its file, different configurations have different files,
and a file that was marshalled is the file of what it is decoded to. -/
theorem decode_marshal (c d : OperatorConfig) :
    decode c.marshal.data = .ok c ∧ (c.marshal.data = d.marshal.data ↔ c = d) ∧
      (decode c.marshal.data).map marshal = .ok c.marshal := by
  have read : decode c.marshal.data = .ok c := by rw [marshal_data, decode_render]
  have other : decode d.marshal.data = .ok d := by rw [marshal_data, decode_render]
  refine ⟨read, ⟨fun same => ?_, fun same => by rw [same]⟩, ?_⟩
  · rw [same, other] at read
    exact (Except.ok.inj read).symm
  · rw [read]
    rfl

/-! What is written says the fields of a configuration under their names, in order. -/

def AwsSection.written (s : AwsSection) : Value :=
  .mapping [("clusterName", .string s.clusterName), ("clusterID", .string s.clusterId), ("region", .string s.region),
    ("availabilityZone", .string s.availabilityZone), ("image", .string s.image), ("replicas", .int s.replicas.toInt)]

def LibvirtSection.written (s : LibvirtSection) : Value :=
  .mapping [("clusterName", .string s.clusterName), ("uri", .string s.uri), ("networkName", .string s.networkName),
    ("iprange", .string s.ipRange), ("replicas", .int s.replicas.toInt)]

def OpenStackSection.written (s : OpenStackSection) : Value :=
  .mapping [("clusterName", .string s.clusterName), ("clusterID", .string s.clusterId), ("region", .string s.region),
    ("replicas", .int s.replicas.toInt)]

def Section.written : Section → Value
  | .aws s => s.written
  | .libvirt s => s.written
  | .openstack s => s.written

/-- The settings of a configuration's provider, and null in the places of the other providers. -/
def writtenFor (c : OperatorConfig) (p : Provider) : Value := if p = c.provider then c.settings.written else .null

theorem toValue_eq (c : OperatorConfig) :
    c.toValue = .mapping [("apiVersion", .string c.apiVersion), ("kind", .string c.kind),
      ("targetNamespace", .string c.targetNamespace), ("apiServiceCA", .string c.apiServiceCa),
      ("provider", .string c.provider.name), ("aws", c.writtenFor .aws), ("libvirt", c.writtenFor .libvirt),
      ("openstack", c.writtenFor .openstack)] := by
  obtain ⟨apiVersion, kind, targetNamespace, apiServiceCa, settings⟩ := c
  cases settings <;> rfl

/-- Whoever reads a marshalled file without knowing what it is sees one mapping with these entries, and null in the
places of all providers but one. -/
theorem untyped_marshal (c : OperatorConfig) :
    (∃ root, Yaml.Document.ofBytes c.marshal.data = ⟨root, none, false⟩ ∧
      root.toValue? = some (.mapping [("apiVersion", .string c.apiVersion), ("kind", .string c.kind),
        ("targetNamespace", .string c.targetNamespace), ("apiServiceCA", .string c.apiServiceCa),
        ("provider", .string c.provider.name), ("aws", c.writtenFor .aws), ("libvirt", c.writtenFor .libvirt),
        ("openstack", c.writtenFor .openstack)])) ∧
      ∀ p, c.writtenFor p = .null ↔ p ≠ c.provider := by
  have whole : c.toValue.isExact = true := by
    rw [toValue]
    exact Schema.isExact_toValue _ _ (Document.legible _)
  refine ⟨?_, fun p => ?_⟩
  · rw [← toValue_eq, marshal_data, render]
    exact ofBytes_render whole
  · rw [writtenFor]
    split
    · next same =>
      have present : c.settings.written ≠ .null := by
        cases c.settings <;>
          simp [Section.written, AwsSection.written, LibvirtSection.written, OpenStackSection.written]
      simp [present, same]
    · next other => simp [other]

end MachineOperator.OperatorConfig
