import ConfigTree.Toml.Scalar
import ConfigTree.Json.Basic

namespace ConfigTree

namespace Toml

/-- How a table came to be: written inline, created on the path of a header, defined by a header, or
created by a dotted key. -/
inductive TableKind where
  | inline
  | implicit
  | explicit
  | dotted
deriving Repr, Inhabited, DecidableEq

/-- A value of a document: a scalar, an array written as a value, a table, or an array of tables
built by headers. -/
inductive Tree where
  | atom (a : Atom)
  | array (items : List Tree)
  | table (kind : TableKind) (entries : List (String × Tree))
  | tables (elems : List (List (String × Tree)))
deriving Inhabited

/-- Entries of a table. -/
abbrev Entries := List (String × Tree)

/-- Replaces the entry of a key, keeping its place. -/
def Entries.put (es : Entries) (k : String) (t : Tree) : Entries :=
  if es.any (·.1 == k) then es.map fun (k', t') => if k' == k then (k, t) else (k', t') else es ++ [(k, t)]

/-- The tree under a key. -/
def Entries.get? (es : Entries) (k : String) : Option Tree := es.lookup k

/-- Keys have fewer parts than this, and arrays and inline tables nest less deep than this. -/
def nestingLimit : Nat := 80

/-- Puts a value under a key that is new in a table. -/
def putNew (v : Tree) (k : String) (es : Entries) : Except String Entries :=
  match es.get? k with
  | none => .ok (es.put k v)
  | some _ => .error ("duplicate key: " ++ k)

/-- Puts a value under a dotted key, creating missing tables on the way as dotted tables. -/
def insertDotted (v : Tree) : List String → Entries → Except String Entries
  | [], _ => .error "empty key"
  | [k], es => putNew v k es
  | [k, last], es =>
    match es.get? k with
    | none => do pure (es.put k (.table .dotted (← putNew v last [])))
    | some (.table .dotted inner) => do pure (es.put k (.table .dotted (← putNew v last inner)))
    | some _ => .error ("duplicate key: " ++ k)
  | k :: ks, es =>
    match es.get? k with
    | none => do pure (es.put k (.table .dotted (← insertDotted v ks [])))
    | some (.table .dotted inner) => do pure (es.put k (.table .dotted (← insertDotted v ks inner)))
    | some (.table .implicit inner) => do pure (es.put k (.table .implicit (← insertDotted v ks inner)))
    | some (.tables elems) =>
      match elems.getLast? with
      | some l => do pure (es.put k (.tables (elems.dropLast ++ [← insertDotted v ks l])))
      | none => .error "empty array of tables"
    | some _ => .error ("duplicate key: " ++ k)

/-- The depth one array or inline table further in, if it stays under `nestingLimit`. -/
def deeper (depth : Nat) : Except String Nat :=
  if depth + 1 < nestingLimit then .ok (depth + 1) else .error "arrays and inline tables nest too deep"

/-- A dotted key at the front, with fewer than `nestingLimit` parts. -/
def readKeyPath (cs : List Char) : Except String (List String × List Char) := do
  let (key, rest) ← readKey (cs.length + 1) cs
  if key.length < nestingLimit then pure (key, rest) else .error "key has too many parts"

/-- Changes the table at a header path, reaching into the last table of arrays of tables. -/
def modifyAt (f : Entries → Except String Entries) : List String → Entries → Except String Entries
  | [], es => f es
  | k :: ks, es =>
    match es.get? k with
    | some (.table kind inner) => do pure (es.put k (.table kind (← modifyAt f ks inner)))
    | some (.tables elems) =>
      match elems.getLast? with
      | some last => do pure (es.put k (.tables (elems.dropLast ++ [← modifyAt f ks last])))
      | none => .error "empty array of tables"
    | _ => .error ("not a table: " ++ k)

/-- Walks a header path, creating missing tables on it, and applies `last` to the final key. -/
def openPath (last : String → Entries → Except String Entries) :
    List String → Entries → Except String Entries
  | [], _ => .error "empty header"
  | [k], es => last k es
  | k :: ks, es =>
    match es.get? k with
    | none => do pure (es.put k (.table .implicit (← openPath last ks [])))
    | some (.table .inline _) => .error ("cannot extend inline table: " ++ k)
    | some (.table kind inner) => do pure (es.put k (.table kind (← openPath last ks inner)))
    | some (.tables elems) =>
      match elems.getLast? with
      | some l => do pure (es.put k (.tables (elems.dropLast ++ [← openPath last ks l])))
      | none => .error "empty array of tables"
    | some _ => .error ("not a table: " ++ k)

/-- Defines the table of a `[header]`: new, or created earlier on the path of another header. -/
def defineTable (path : List String) (es : Entries) : Except String Entries :=
  openPath (fun k es =>
    match es.get? k with
    | none => .ok (es.put k (.table .explicit []))
    | some (.table .implicit inner) => .ok (es.put k (.table .explicit inner))
    | some _ => .error ("duplicate table: " ++ k)) path es

/-- Appends a table to the array of a `[[header]]`. -/
def appendTable (path : List String) (es : Entries) : Except String Entries :=
  openPath (fun k es =>
    match es.get? k with
    | none => .ok (es.put k (.tables [[]]))
    | some (.tables elems) => .ok (es.put k (.tables (elems ++ [[]])))
    | some _ => .error ("duplicate key: " ++ k)) path es

/-- The characters after blanks, newlines and comments. -/
def skipSpace (fuel : Nat) (cs : List Char) : Except String (List Char) :=
  match fuel with
  | 0 => .error "too deep"
  | fuel + 1 =>
    match cs.dropWhile isBlank with
    | '\n' :: rest => skipSpace fuel rest
    | '\r' :: '\n' :: rest => skipSpace fuel rest
    | '#' :: rest =>
      let comment := rest.takeWhile fun c => c != '\n' && c != '\r'
      if comment.any isForbidden then .error "control character in comment"
      else skipSpace fuel (rest.dropWhile fun c => c != '\n' && c != '\r')
    | other => .ok other

mutual

/-- A value at the front of the characters, inside `depth` arrays and inline tables. -/
def readValue (fuel depth : Nat) (cs : List Char) : Except String (Tree × List Char) :=
  match fuel with
  | 0 => .error "too deep"
  | fuel + 1 =>
    match cs with
    | '"' :: '"' :: '"' :: rest => do
      let (s, rest) ← readMultiBasic [] false (dropFirstNewline rest)
      pure (.atom (.text s), rest)
    | '"' :: rest => do
      let (s, rest) ← readBasic [] rest
      pure (.atom (.text s), rest)
    | '\'' :: '\'' :: '\'' :: rest => do
      let (s, rest) ← readMultiLiteral [] (dropFirstNewline rest)
      pure (.atom (.text s), rest)
    | '\'' :: rest => do
      let (s, rest) ← readLiteral [] rest
      pure (.atom (.text s), rest)
    | '[' :: rest => do
      let (items, rest) ← readArray fuel (← deeper depth) [] rest
      pure (.array items, rest)
    | '{' :: rest => do
      let (entries, rest) ← readInline fuel (← deeper depth) rest
      pure (.table .inline entries, rest)
    | _ =>
      let (word, rest) := takeWord cs
      match atomOfWord? word with
      | some a => .ok (.atom a, rest)
      | none => .error "invalid value"

/-- The items of an array after its `[`, up to and including its `]`; `acc` holds the items read,
reversed. -/
def readArray (fuel depth : Nat) (acc : List Tree) (cs : List Char) :
    Except String (List Tree × List Char) :=
  match fuel with
  | 0 => .error "too deep"
  | fuel + 1 => do
    match ← skipSpace (cs.length + 1) cs with
    | ']' :: rest => pure (acc.reverse, rest)
    | cs => do
      let (v, rest) ← readValue fuel depth cs
      match ← skipSpace (rest.length + 1) rest with
      | ',' :: more => readArray fuel depth (v :: acc) more
      | ']' :: more => pure ((v :: acc).reverse, more)
      | _ => .error "expected , or ] in array"

/-- The entries of an inline table after its `{`, up to and including its `}`, on one line, with no
comma after the last entry. -/
def readInline (fuel depth : Nat) (cs : List Char) : Except String (Entries × List Char) :=
  match fuel with
  | 0 => .error "too deep"
  | fuel + 1 =>
    match cs.dropWhile isBlank with
    | '}' :: rest => .ok ([], rest)
    | cs => readInlineEntries fuel depth [] cs

/-- Entries of an inline table, each followed by `,` and another entry or by `}`. -/
def readInlineEntries (fuel depth : Nat) (acc : Entries) (cs : List Char) :
    Except String (Entries × List Char) :=
  match fuel with
  | 0 => .error "too deep"
  | fuel + 1 => do
    let (key, rest) ← readKeyPath (cs.dropWhile isBlank)
    match rest.dropWhile isBlank with
    | '=' :: rest => do
      let (v, rest) ← readValue fuel depth (rest.dropWhile isBlank)
      let acc ← insertDotted v key acc
      match rest.dropWhile isBlank with
      | ',' :: more => readInlineEntries fuel depth acc more
      | '}' :: more => pure (acc, more)
      | _ => .error "expected a comma or the end of an inline table"
    | _ => .error "expected = in inline table"

end

/-- The rest of a line after its content: blanks, an optional comment, then a newline or the end. -/
def endLine (cs : List Char) : Except String (List Char) :=
  match cs.dropWhile isBlank with
  | [] => .ok []
  | '\n' :: rest => .ok rest
  | '\r' :: '\n' :: rest => .ok rest
  | '#' :: rest =>
    let comment := rest.takeWhile fun c => c != '\n' && c != '\r'
    if comment.any isForbidden then .error "control character in comment"
    else
      match rest.dropWhile fun c => c != '\n' && c != '\r' with
      | [] => .ok []
      | '\n' :: more => .ok more
      | '\r' :: '\n' :: more => .ok more
      | _ => .error "expected a newline"
  | _ => .error "expected a newline"

/-- Reads the lines of a document into the root table; `current` is the path of the last header. -/
def readLines (fuel : Nat) (root : Entries) (current : List String) (cs : List Char) :
    Except String Entries :=
  match fuel with
  | 0 => .error "document too long"
  | fuel + 1 => do
    match ← skipSpace (cs.length + 1) cs with
    | [] => pure root
    | '[' :: '[' :: rest => do
      let (path, rest) ← readKeyPath (rest.dropWhile isBlank)
      match rest.dropWhile isBlank with
      | ']' :: ']' :: rest => do
        let root ← appendTable path root
        readLines fuel root path (← endLine rest)
      | _ => .error "expected ]] after array of tables header"
    | '[' :: rest => do
      let (path, rest) ← readKeyPath (rest.dropWhile isBlank)
      match rest.dropWhile isBlank with
      | ']' :: rest => do
        let root ← defineTable path root
        readLines fuel root path (← endLine rest)
      | _ => .error "expected ] after table header"
    | cs => do
      let (key, rest) ← readKeyPath cs
      match rest.dropWhile isBlank with
      | '=' :: rest => do
        let (v, rest) ← readValue (rest.length + 1) 0 (rest.dropWhile isBlank)
        let root ← modifyAt (insertDotted v key) current root
        readLines fuel root current (← endLine rest)
      | _ => .error "expected = after key"

/-- Reads a whole document into its root table, after one byte order mark if it opens with one. -/
def parse (text : String) : Except String Entries :=
  let cs := match text.toList with
    | '\uFEFF' :: rest => rest
    | cs => cs
  readLines (cs.length + 1) [] [] cs

/-- The text under which a date or time is kept. -/
def datetimeKey : String := "$__toml_private_datetime"

/-- The JSON form of a scalar: infinite and not-a-number floats become `null`. -/
def Atom.toJson : Atom → Json
  | .text s => .str s
  | .integer i => .int i
  | .float x => if x.isFinite then .float x else .null
  | .flag b => .bool b
  | .datetime t => .obj [(datetimeKey, .str t)]

mutual

/-- The JSON form of a value. -/
def Tree.toJson : Tree → Json
  | .atom a => a.toJson
  | .array items => .arr (Tree.itemsToJson items)
  | .table _ entries => .obj (sortedMembers (Tree.entriesToJson entries))
  | .tables elems => .arr (Tree.tablesToJson elems)

/-- The JSON forms of items. -/
def Tree.itemsToJson : List Tree → List Json
  | [] => []
  | t :: rest => t.toJson :: Tree.itemsToJson rest

/-- The JSON forms of entries. -/
def Tree.entriesToJson : List (String × Tree) → List (String × Json)
  | [] => []
  | (k, t) :: rest => (k, t.toJson) :: Tree.entriesToJson rest

/-- The JSON forms of the tables of an array of tables. -/
def Tree.tablesToJson : List (List (String × Tree)) → List Json
  | [] => []
  | es :: rest => .obj (sortedMembers (Tree.entriesToJson es)) :: Tree.tablesToJson rest

end

/-- The JSON form of a document's root table, or why the document is rejected. -/
def extract (text : String) : Except String Json :=
  (parse text).map fun root => .obj (sortedMembers (Tree.entriesToJson root))

end Toml

end ConfigTree
