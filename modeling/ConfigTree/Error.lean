
namespace ConfigTree

/-- A failure of reading or binding configuration. -/
inductive ConfigError where
  | missingRequired (key : String)
  | typeConversion (key : Option String) (value : String) (sourceType : String)
      (targetType : String) (validValues : List String)
  | arityMismatch (typeName : String) (declared consumed : Nat)
  | unassignableIdentity (typeName member declaredType : String)
  | markerMisuse (typeName member reason : String)
  | mutableField (typeName member declaredType : String)
  | unresolvableTarget (typeName : String) (key : Option String)
  | depthLimit (typeName : String) (depth : Nat)
  | cannotLoad (reason : String)
  | malformedDocument (reason : String)
deriving DecidableEq, Repr, Inhabited

namespace ConfigError

/-- A conversion failure without key or list of valid values. -/
def conversion (value sourceType targetType : String) : ConfigError :=
  .typeConversion none value sourceType targetType []

/-- `parent` and `child` joined as a path: a list position `[i]` joins without a dot. -/
def joinKey (parent : String) : Option String → String
  | none => parent
  | some child => if child.startsWith "[" then parent ++ child else parent ++ "." ++ child

/-- Places the failure under the node at `parent`. -/
def within (e : ConfigError) (parent : String) : ConfigError :=
  match e with
  | .missingRequired key => .missingRequired (joinKey parent (some key))
  | .typeConversion key value src tgt valid => .typeConversion (some (joinKey parent key)) value src tgt valid
  | .unresolvableTarget t key => .unresolvableTarget t (some (joinKey parent key))
  | other => other

/-- The key the failure is reported for. -/
def key? : ConfigError → Option String
  | .missingRequired key => some key
  | .typeConversion key .. => key
  | .unresolvableTarget _ key => key
  | _ => none

/-- ` at key: '…'` when a key is known. -/
def atKey : Option String → String
  | none => ""
  | some k => " at key: '" ++ k ++ "'"

/-- The message of a failure. -/
def message : ConfigError → String
  | .missingRequired key => "Missing required property: '" ++ key ++ "'"
  | .typeConversion key value src tgt valid =>
    "Unable to convert value: " ++ value ++ " (of type: " ++ src ++ ") to: " ++ tgt ++ atKey key ++
      (if valid.isEmpty then "" else ", possible values: " ++ ", ".intercalate valid)
  | .arityMismatch t declared consumed =>
    "Config type: " ++ t ++ " declares " ++ toString declared ++
      " bindable members but its constructor consumed " ++ toString consumed ++
      ", every member must be bound exactly once or marked as skipped"
  | .unassignableIdentity t m d =>
    "Member: " ++ t ++ "::" ++ m ++ " is marked as identity but its type " ++ d ++
      " cannot hold the backing node"
  | .markerMisuse t m reason => "Member: " ++ t ++ "::" ++ m ++ " " ++ reason
  | .mutableField t m d =>
    "Member: " ++ t ++ "::" ++ m ++ " of type " ++ d ++
      " is mutable, all members must be immutable, use #[config(allow_mutable)] if this is not desired"
  | .unresolvableTarget t key => "Type: " ++ t ++ " cannot be materialized from a node" ++ atKey key
  | .depthLimit t depth =>
    "Materializing " ++ t ++ " exceeded the maximum nesting depth of " ++ toString depth
  | .cannotLoad reason => "Cannot load configuration: " ++ reason
  | .malformedDocument reason => "Cannot load configuration: " ++ reason

/-- The name of the failure's cause. -/
def kindName : ConfigError → String
  | .missingRequired .. => "MissingRequiredProperty"
  | .typeConversion .. => "TypeConversion"
  | .arityMismatch .. => "ConstructionArityMismatch"
  | .unassignableIdentity .. => "UnassignableIdentityType"
  | .markerMisuse .. => "InvalidAnnotationUsage"
  | .mutableField .. => "MutableField"
  | .unresolvableTarget .. => "UnresolvableTargetType"
  | .depthLimit .. => "DepthLimitExceeded"
  | .cannotLoad .. => "CannotLoadConfiguration"
  | .malformedDocument .. => "CannotLoadConfiguration"

end ConfigError

end ConfigTree
