import EndpointCall.Declaration.Basic
/-! Comparing a custom declaration with its base. -/
namespace EndpointCall

structure ValueSpec where
  dataType : DataType
  multiple : Bool
  nullable : Bool
  deriving Repr, BEq, DecidableEq

def ParamDescriptor.spec (p : ParamDescriptor) : ValueSpec := ⟨p.dataType, p.multiple, p.nullable⟩

def ReturnDescriptor.spec (r : ReturnDescriptor) : ValueSpec := ⟨r.dataType, r.multiple, r.nullable⟩

structure FieldChange where
  field : String
  custom : String
  base : String
  deriving Repr, BEq, DecidableEq

def FieldChange.message (c : FieldChange) : String :=
  c.field ++ " " ++ c.custom ++ " instead of " ++ c.base

def boolText (b : Bool) : String := if b then "true" else "false"

def ValueSpec.changes (custom base : ValueSpec) : List FieldChange :=
  (if custom.dataType ≠ base.dataType then
    [⟨"datatype", custom.dataType.name, base.dataType.name⟩] else []) ++
  (if custom.multiple ≠ base.multiple then
    [⟨"multiple", boolText custom.multiple, boolText base.multiple⟩] else []) ++
  (if custom.nullable ≠ base.nullable then
    [⟨"nullable", boolText custom.nullable, boolText base.nullable⟩] else [])

def changesText (cs : List FieldChange) : String := ", ".intercalate (cs.map FieldChange.message)

/-- A difference between a custom declaration and its base. -/
inductive Difference where
  | endpointPath (base custom : String)
  | missingParam (role : ParamRole)
  | extraParam (role : ParamRole)
  | changedParam (role : ParamRole) (changes : List FieldChange)
  | returnPresence (base : Bool)
  | changedReturn (changes : List FieldChange)
  deriving Repr, BEq, DecidableEq

def Difference.message : Difference → String
  | .endpointPath base custom => "endpoint " ++ custom ++ " differs from base " ++ base
  | .missingParam r => r.name ++ " parameter missing from custom endpoint"
  | .extraParam r => r.name ++ " parameter not declared by base endpoint"
  | .changedParam r cs => r.name ++ " parameter changed: " ++ changesText cs
  | .returnPresence true => "return missing from custom endpoint"
  | .returnPresence false => "return not declared by base endpoint"
  | .changedReturn cs => "return changed: " ++ changesText cs

namespace Declaration

def baseParamDifferences (custom : Declaration) (bp : ParamDescriptor) : List Difference :=
  match custom.params.find? (fun p => p.role == bp.role) with
  | none => [.missingParam bp.role]
  | some cp =>
    match cp.spec.changes bp.spec with
    | [] => []
    | cs => [.changedParam bp.role cs]

def returnDifferences : Option ReturnDescriptor → Option ReturnDescriptor → List Difference
  | some cr, some br =>
    match cr.spec.changes br.spec with
    | [] => []
    | cs => [.changedReturn cs]
  | none, some _ => [.returnPresence true]
  | some _, none => [.returnPresence false]
  | none, none => []

/-- Every difference of a custom declaration from its base, in reporting order. -/
def compare (custom base : Declaration) : List Difference :=
  (if custom.path ≠ base.path then [.endpointPath base.path custom.path] else []) ++
  base.params.flatMap (baseParamDifferences custom) ++
  (custom.params.filter (fun cp => !base.params.any (fun p => p.role == cp.role))).map
    (fun cp => .extraParam cp.role) ++
  returnDifferences custom.returns base.returns

end Declaration
end EndpointCall
