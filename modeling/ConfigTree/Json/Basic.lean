import ConfigTree.Number.Layout

namespace ConfigTree

/-- A JSON document. -/
inductive Json where
  | null
  | bool (b : Bool)
  | int (i : Int)
  | float (x : Double)
  | str (s : String)
  | arr (items : List Json)
  | obj (fields : List (String × Json))
deriving Inhabited, Repr

/-- Object members as a JSON map holds them: in key order, the last of equal keys winning. -/
def sortedMembers {α : Type} (members : List (String × α)) : List (String × α) :=
  let rec put (k : String) (a : α) : List (String × α) → List (String × α)
    | [] => [(k, a)]
    | (k', a') :: rest =>
      if k < k' then (k, a) :: (k', a') :: rest
      else if k = k' then (k, a) :: rest
      else (k', a') :: put k a rest
  members.foldl (fun acc (k, a) => put k a acc) []

namespace Json

/-- The four lowest hexadecimal digits of `n`, in lower case. -/
def hex4 (n : Nat) : String :=
  let d (k : Nat) : Char := "0123456789abcdef".toList.getD (n / Nat.pow 16 k % 16) '0'
  String.ofList [d 3, d 2, d 1, d 0]

/-- A character inside a JSON string literal. -/
def escapeChar (c : Char) : String :=
  match c with
  | '"' => "\\\""
  | '\\' => "\\\\"
  | '\n' => "\\n"
  | '\r' => "\\r"
  | '\t' => "\\t"
  | '\x08' => "\\b"
  | '\x0c' => "\\f"
  | c => if c.toNat < 0x20 then "\\u" ++ hex4 c.toNat else String.singleton c

/-- A JSON string literal, quotes included. -/
def quote (s : String) : String :=
  "\"" ++ String.join (s.toList.map escapeChar) ++ "\""

mutual

/-- The compact text of a document. -/
def compact : Json → String
  | .null => "null"
  | .bool b => if b then "true" else "false"
  | .int i => toString i
  | .float x => x.render .json
  | .str s => quote s
  | .arr items => "[" ++ ",".intercalate (compactItems items) ++ "]"
  | .obj fields => "\x7b" ++ ",".intercalate (compactFields fields) ++ "\x7d"

/-- The texts of array items. -/
def compactItems : List Json → List String
  | [] => []
  | j :: rest => compact j :: compactItems rest

/-- The texts of object members. -/
def compactFields : List (String × Json) → List String
  | [] => []
  | (k, j) :: rest => (quote k ++ ":" ++ compact j) :: compactFields rest

end

/-- The member of an object with the given key, the last one when the key is repeated. -/
def field? (j : Json) (key : String) : Option Json :=
  match j with
  | .obj fields => (fields.reverse.find? (·.1 == key)).map (·.2)
  | _ => none

/-- The text of a string document. -/
def str? : Json → Option String
  | .str s => some s
  | _ => none

/-- The items of an array document. -/
def arr? : Json → Option (List Json)
  | .arr items => some items
  | _ => none

/-- The flag of a boolean document. -/
def bool? : Json → Option Bool
  | .bool b => some b
  | _ => none

/-- The value of an integer document. -/
def int? : Json → Option Int
  | .int i => some i
  | _ => none

/-- Whether the document is `null`. -/
def isNull : Json → Bool
  | .null => true
  | _ => false

end Json

end ConfigTree
