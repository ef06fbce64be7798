import ConfigTree.Node.Json
import ConfigTree.Number.IntKind
import ConfigTree.Number.Literal
import ConfigTree.Text.Case
import ConfigTree.Error

namespace ConfigTree

/-- An enumeration a configuration can name: its name, its full type path, and its variants with the
configuration name each answers to. -/
structure EnumDecl where
  name : String
  path : String
  variants : List (String × String)
deriving Repr, Inhabited

/-- The form a text takes to be compared with configuration names of an enumeration. -/
def normalizeEnumName (s : String) : String :=
  String.ofList ((Text.toUpper (Text.trim s)).toList.map fun c => if c == ' ' || c == '-' then '_' else c)

namespace EnumDecl

/-- The configuration names, in declaration order. -/
def names (e : EnumDecl) : List String := e.variants.map (·.2)

/-- Declares an enumeration from its variants, each with an optional configuration name; a variant
without one answers to its identifier in upper snake case, as `upperSnake` writes it, and a given
name is normalized like the texts it is compared with. -/
def declare (upperSnake : String → String) (name path : String)
    (variants : List (String × Option String)) : EnumDecl :=
  ⟨name, path, variants.map fun (v, n) => (v, match n with
    | some given => normalizeEnumName given
    | none => upperSnake v)⟩

/-- The variant a text names. -/
def variantOf? (e : EnumDecl) (s : String) : Option String :=
  let wanted := normalizeEnumName s
  (e.variants.find? (·.2 == wanted)).map (·.1)

end EnumDecl

/-- The type a value is read as. -/
inductive Target where
  | int (k : IntKind)
  | f32
  | f64
  | bool
  | string
  | char
  | node
  | value
  | enum (e : EnumDecl)
  | list (item : Target)
deriving Repr, Inhabited

/-- A value read as a target type. -/
inductive Typed where
  | int (k : IntKind) (i : Int)
  | f32 (x : Single)
  | f64 (x : Double)
  | bool (b : Bool)
  | str (s : String)
  | char (c : Char)
  | node (n : Node)
  | value (v : Value)
  | enum (variant : String)
  | list (items : List Typed)
deriving Inhabited

/-- The full name of a configuration value's type, as conversion errors name it. -/
def valueTypePath : String := "typed_config::node::value::Value"

namespace Target

/-- The name conversion errors give the target. -/
def name : Target → String
  | .int k => k.name
  | .f32 => "f32"
  | .f64 => "f64"
  | .bool => "bool"
  | .string => "String"
  | .char => "char"
  | .node => "Node"
  | .value => valueTypePath
  | .enum e => e.name
  | .list t => "Vec<" ++ t.name ++ ">"

end Target

/-- A number read from text: an integer of at most 128 signed bits, or a binary number. -/
inductive TextNumber where
  | int (i : Int)
  | float (x : Double)

/-- Reads a text as a float literal when it has a `.`, else as a 128-bit integer literal. -/
def readTextNumber (s : String) : Option TextNumber :=
  if s.contains '.' then (Double.ofString? s).map .float
  else
    match readIntLiteral s with
    | some i => if IntKind.i128.holds i then some (.int i) else none
    | none => none

/-- Reads `true`, `yes`, `false` or `no`, in any ASCII case. -/
def parseBool (s : String) : Option Bool :=
  match s.toLower with
  | "true" | "yes" => some true
  | "false" | "no" => some false
  | _ => none

/-- The trimmed, non-blank items of a `[a, b, c]` text. -/
def parseList (s : String) : Option (List String) :=
  let t := (Text.trim s).toList
  match t.head?, t.getLast? with
  | some '[', some ']' =>
    if t.length < 2 then none
    else
      let inner := (t.drop 1).dropLast
      let items := (String.ofList inner).splitOn ","
      some ((items.map Text.trim).filter (· != ""))
  | _, _ => none

/-- The items of a list value, or of a bracketed list text. -/
def itemsOf? : Value → Option (List Value)
  | .list items => some items
  | .str s => (parseList s).map (·.map .str)
  | _ => none

/-- The failure of reading `v` as a type of the given name. -/
def mismatch (v : Value) (target : String) : ConfigError := .conversion v.display v.kind target

/-- Reads a value as text: texts as they are, other leaves as their text. -/
def readString (v : Value) : Except ConfigError String :=
  match v with
  | .str s => .ok s
  | .bool _ | .int _ | .float _ => .ok v.display
  | _ => .error (mismatch v "String")

/-- Reads a value as an integer of a kind. -/
def readInt (k : IntKind) (v : Value) : Except ConfigError Int :=
  match v with
  | .int i => .ok (k.wrap i)
  | .float x => .ok (k.ofFloat x.classify)
  | .str s =>
    match readTextNumber s with
    | some (.int i) => .ok (k.wrap i)
    | some (.float x) => .ok (k.ofFloat x.classify)
    | none => .error (mismatch v k.name)
  | _ => .error (mismatch v k.name)

/-- Reads a value as a 64-bit binary number. -/
def readF64 (v : Value) : Except ConfigError Double :=
  match v with
  | .int i => .ok (Double.ofInt i)
  | .float x => .ok x
  | .str s =>
    match Double.ofString? s with
    | some x => .ok x
    | none => .error (mismatch v "f64")
  | _ => .error (mismatch v "f64")

/-- Reads a value as a 32-bit binary number. -/
def readF32 (v : Value) : Except ConfigError Single :=
  match v with
  | .int i => .ok (Single.ofInt i)
  | .float x => .ok x.toSingle
  | .str s =>
    match Single.ofString? s with
    | some x => .ok x
    | none => .error (mismatch v "f32")
  | _ => .error (mismatch v "f32")

/-- Reads a value as a flag. -/
def readBool (v : Value) : Except ConfigError Bool :=
  match v with
  | .bool b => .ok b
  | .str s =>
    match parseBool s with
    | some b => .ok b
    | none => .error (.typeConversion none s v.kind "bool" ["true", "false", "yes", "no"])
  | _ => .error (mismatch v "bool")

/-- Reads a value as one character. -/
def readChar (v : Value) : Except ConfigError Char := do
  let s ← readString v
  match s.toList with
  | [c] => .ok c
  | _ => .error (mismatch v "char")

/-- Reads a value as a variant of an enumeration. -/
def readEnum (e : EnumDecl) (v : Value) : Except ConfigError String :=
  match v with
  | .str s =>
    match e.variantOf? s with
    | some variant => .ok variant
    | none => .error (.typeConversion none s v.kind e.name e.names)
  | _ => .error (mismatch v e.name)

/-- Reads each item with `read`; a failure is placed under the item's position `[i]`. -/
def readItems {α : Type} (read : Value → Except ConfigError α) (items : List Value) :
    Except ConfigError (List α) :=
  (items.zipIdx.mapM fun (item, i) =>
    match read item with
    | .ok a => .ok a
    | .error e => .error (e.within ("[" ++ toString i ++ "]")))

/-- Reads a value as a target type. -/
def Target.read : Target → Value → Except ConfigError Typed
  | .int k, v => (readInt k v).map (.int k)
  | .f32, v => (readF32 v).map .f32
  | .f64, v => (readF64 v).map .f64
  | .bool, v => (readBool v).map .bool
  | .string, v => (readString v).map .str
  | .char, v => (readChar v).map .char
  | .node, v =>
    match v with
    | .node n => .ok (.node n)
    | _ => .error (mismatch v "Node")
  | .value, v => .ok (.value v)
  | .enum e, v => (readEnum e v).map .enum
  | .list t, v =>
    match itemsOf? v with
    | some items => (readItems t.read items).map .list
    | none => .error (mismatch v ("Vec<" ++ t.name ++ ">"))

end ConfigTree
