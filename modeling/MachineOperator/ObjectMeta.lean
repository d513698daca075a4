import MachineOperator.Yaml.Schema

/-!
The metadata of a cluster object: its name and labels, who owns and who manages it, and when it came and goes.
Everything may be absent.
-/
namespace MachineOperator
open Yaml

/-- An object that this one belongs to. -/
structure OwnerReference where
  apiVersion : String
  blockOwnerDeletion : Option Bool
  controller : Option Bool
  kind : String
  name : String
  uid : String
deriving DecidableEq

/-- The fields that one manager of an object has set. -/
structure ManagedFields where
  apiVersion : Option String
  fieldsType : Option String
  fieldsV1 : Option Value
  manager : Option String
  operation : Option String
  subresource : Option String
  time : Option Timestamp
deriving BEq

structure ObjectMeta where
  annotations : Option (Dict String String) := none
  creationTimestamp : Option Timestamp := none
  deletionGracePeriodSeconds : Option Int64 := none
  deletionTimestamp : Option Timestamp := none
  finalizers : Option (List String) := none
  generateName : Option String := none
  generation : Option Int64 := none
  labels : Option (Dict String String) := none
  managedFields : Option (List ManagedFields) := none
  name : Option String := none
  inNamespace : Option String := none
  ownerReferences : Option (List OwnerReference) := none
  resourceVersion : Option String := none
  selfLink : Option String := none
  uid : Option String := none
deriving BEq

namespace OwnerReference

def schema : Schema :=
  .record "OwnerReference" false <|
  .cons "apiVersion" .defaulted .nullableText <|
  .cons "blockOwnerDeletion" .elided (.optional .boolean) <|
  .cons "controller" .elided (.optional .boolean) <|
  .cons "kind" .defaulted .nullableText <|
  .cons "name" .defaulted .nullableText <|
  .cons "uid" .defaulted .nullableText <|
  .nil

def ofCarrier : schema.Carrier → OwnerReference
  | (apiVersion, blockOwnerDeletion, controller, kind, name, uid, ()) =>
    { apiVersion, blockOwnerDeletion, controller, kind, name, uid }

def toCarrier (r : OwnerReference) : schema.Carrier :=
  (r.apiVersion, r.blockOwnerDeletion, r.controller, r.kind, r.name, r.uid, ())

@[simp] theorem ofCarrier_toCarrier (r : OwnerReference) : ofCarrier r.toCarrier = r := rfl

end OwnerReference

namespace ManagedFields

def schema : Schema :=
  .record "ManagedFieldsEntry" false <|
  .cons "apiVersion" .elided (.optional .text) <|
  .cons "fieldsType" .elided (.optional .text) <|
  .cons "fieldsV1" .elided (.optional .json) <|
  .cons "manager" .elided (.optional .text) <|
  .cons "operation" .elided (.optional .text) <|
  .cons "subresource" .elided (.optional .text) <|
  .cons "time" .elided (.optional .time) <|
  .nil

def ofCarrier : schema.Carrier → ManagedFields
  | (apiVersion, fieldsType, fieldsV1, manager, operation, subresource, time, ()) =>
    { apiVersion, fieldsType, fieldsV1, manager, operation, subresource, time }

def toCarrier (m : ManagedFields) : schema.Carrier :=
  (m.apiVersion, m.fieldsType, m.fieldsV1, m.manager, m.operation, m.subresource, m.time, ())

@[simp] theorem ofCarrier_toCarrier (m : ManagedFields) : ofCarrier m.toCarrier = m := rfl

end ManagedFields

namespace ObjectMeta

def schema : Schema :=
  .record "ObjectMeta" false <|
  .cons "annotations" .elided (.optional (.mapOf .text)) <|
  .cons "creationTimestamp" .elided (.optional .time) <|
  .cons "deletionGracePeriodSeconds" .elided (.optional .int64) <|
  .cons "deletionTimestamp" .elided (.optional .time) <|
  .cons "finalizers" .elided (.optional (.listOf .text)) <|
  .cons "generateName" .elided (.optional .text) <|
  .cons "generation" .elided (.optional .int64) <|
  .cons "labels" .elided (.optional (.mapOf .text)) <|
  .cons "managedFields" .elided (.optional (.listOf ManagedFields.schema)) <|
  .cons "name" .elided (.optional .text) <|
  .cons "namespace" .elided (.optional .text) <|
  .cons "ownerReferences" .elided (.optional (.listOf OwnerReference.schema)) <|
  .cons "resourceVersion" .elided (.optional .text) <|
  .cons "selfLink" .elided (.optional .text) <|
  .cons "uid" .elided (.optional .text) <|
  .nil

def ofCarrier : schema.Carrier → ObjectMeta
  | (annotations, creationTimestamp, deletionGracePeriodSeconds, deletionTimestamp, finalizers, generateName,
      generation, labels, managedFields, name, inNamespace, ownerReferences, resourceVersion, selfLink, uid, ()) =>
    { annotations, creationTimestamp, deletionGracePeriodSeconds, deletionTimestamp, finalizers, generateName,
      generation, labels, name, inNamespace, resourceVersion, selfLink, uid,
      managedFields := managedFields.map (List.map (α := ManagedFields.schema.Carrier) ManagedFields.ofCarrier)
      ownerReferences :=
        ownerReferences.map (List.map (α := OwnerReference.schema.Carrier) OwnerReference.ofCarrier) }

def toCarrier (m : ObjectMeta) : schema.Carrier :=
  (m.annotations, m.creationTimestamp, m.deletionGracePeriodSeconds, m.deletionTimestamp, m.finalizers, m.generateName,
    m.generation, m.labels, m.managedFields.map (List.map ManagedFields.toCarrier), m.name, m.inNamespace,
    m.ownerReferences.map (List.map OwnerReference.toCarrier), m.resourceVersion, m.selfLink, m.uid, ())

end ObjectMeta
end MachineOperator
