import ConfigTree.Error
import ConfigTree.Naming

namespace ConfigTree

/-- A marker that takes a member out of the ordinary read from the node. -/
inductive Marker where
  | ignore
  | identity
  | parent
  | computed
deriving Repr, Inhabited, DecidableEq

/-- The name of a marker as declarations write it. -/
def Marker.name : Marker → String
  | .ignore => "ignore"
  | .identity => "identity"
  | .parent => "parent"
  | .computed => "computed"

/-- The marker a name stands for. -/
def Marker.ofName? : String → Option Marker
  | "ignore" => some .ignore
  | "identity" => some .identity
  | "parent" => some .parent
  | "computed" => some .computed
  | _ => none

/-- What a field promises when its key is absent. -/
inductive Contract where
  | required
  | withDefault
  | withFallback
  | zero
deriving Repr, Inhabited, DecidableEq

/-- The contract a name stands for. -/
def Contract.ofName? : String → Option Contract
  | "required" => some .required
  | "default" => some .withDefault
  | "fallback" => some .withFallback
  | "zero" => some .zero
  | _ => none

/-- Whether a member is a field or a getter, with what each kind declares. -/
inductive MemberShape where
  | field (mutable : Bool) (contract : Contract)
  | getter (hasBody takesArguments : Bool)
deriving Repr, Inhabited, DecidableEq

/-- A declared member: its name, an optional key replacing the derived one, the full path of its
declared type, its markers and its shape. -/
structure Member where
  name : String
  rename : Option String := none
  declaredType : String
  markers : List Marker := []
  shape : MemberShape
deriving Repr, Inhabited

/-- How a member is bound. -/
inductive BindingKind where
  | required
  | withDefault
  | withFallback
  | zero
  | computed
  | identity
  | parentRef
  | ignored
deriving Repr, Inhabited, DecidableEq

namespace BindingKind

/-- The name of a binding kind in descriptors and messages. -/
def name : BindingKind → String
  | .required => "Required"
  | .withDefault => "OptionalWithDefault"
  | .withFallback => "OptionalWithFallbackNode"
  | .zero => "OptionalZeroValue"
  | .computed => "Computed"
  | .identity => "Identity"
  | .parentRef => "ParentRef"
  | .ignored => "Ignored"

end BindingKind

/-- Whether a class binds fields in order or getters by name. -/
inductive BindingStyle where
  | fields
  | getters
deriving Repr, Inhabited, DecidableEq

/-- Class-wide settings: the key a member name stands for under the class's naming convention, and
whether mutable fields are allowed. -/
structure ClassSettings where
  naming : String → String := id
  allowMutable : Bool := false
deriving Inhabited

/-- A classified member: its name, the key it reads, its declared type and its binding kind. -/
structure Descriptor where
  member : String
  logicalName : String
  declaredType : String
  kind : BindingKind
deriving Repr, Inhabited

namespace Member

/-- The key a member reads: its rename, else its name under the class's naming convention, a
getter's name first losing a leading `get_` or `is_`. -/
def logicalName (naming : String → String) (m : Member) : String :=
  match m.rename, m.shape with
  | some r, _ => r
  | none, .getter _ _ => naming (Naming.propertyName m.name)
  | none, .field _ _ => naming m.name

/-- The binding kind of a member of the class `typeName`, `none` for a getter that takes arguments
and has a body, which is not bound at all. -/
def kind? (typeName : String) (style : BindingStyle) (settings : ClassSettings) (m : Member) :
    Except ConfigError (Option BindingKind) := do
  let misuse (reason : String) : ConfigError := .markerMisuse typeName m.name reason
  let marker ← match m.markers with
    | [] => pure none
    | [k] => pure (some k)
    | ks => throw (misuse ("carries more than one binding marker: " ++ ", ".intercalate (ks.map Marker.name)))
  match m.shape with
  | .field true _ =>
    if marker != some .ignore && !settings.allowMutable then
      throw (.mutableField typeName m.name m.declaredType)
  | _ => pure ()
  let (hasBody, takesArguments, isGetter) := match m.shape with
    | .getter b a => (b, a, true)
    | .field _ _ => (false, false, false)
  match marker with
  | some .ignore =>
    if isGetter && !hasBody then
      throw (misuse "is marked as ignored but does not have a default implementation")
    pure (some .ignored)
  | some k =>
    if takesArguments then throw (misuse ("is marked as " ++ k.name ++ " but is not a getter"))
    match k with
    | .identity => pure (some .identity)
    | .parent => pure (some .parentRef)
    | _ =>
      if style == .fields || !isGetter then
        throw (misuse "is marked as computed, which only applies to getter-style configs")
      if !hasBody then
        throw (misuse "is marked as computed but does not have a default implementation")
      pure (some .computed)
  | none =>
    if takesArguments then
      if hasBody then pure none
      else throw (misuse "is not a getter and there is no default implementation")
    else
      match m.shape with
      | .field _ .required => pure (some .required)
      | .field _ .withDefault => pure (some .withDefault)
      | .field _ .withFallback => pure (some .withFallback)
      | .field _ .zero => pure (some .zero)
      | .getter true _ => pure (some .withDefault)
      | .getter false _ => pure (some .zero)

end Member

/-- The descriptors of a class's members in declaration order, or the first member's failure;
getters that take arguments and have a body are left out. -/
def classify (typeName : String) (style : BindingStyle) (settings : ClassSettings)
    (members : List Member) : Except ConfigError (List Descriptor) :=
  members.filterMapM fun m => do
    match ← m.kind? typeName style settings with
    | none => pure none
    | some k => pure (some ⟨m.name, m.logicalName settings.naming, m.declaredType, k⟩)

end ConfigTree
