
namespace ConfigTree

namespace Template

/-- Splits a token at its first `:-` into key and fallback. -/
def splitFallback (token : List Char) : List Char × Option (List Char) :=
  let rec go (acc : List Char) : List Char → List Char × Option (List Char)
    | [] => (acc.reverse, none)
    | ':' :: '-' :: rest => (acc.reverse, some rest)
    | c :: rest => go (c :: acc) rest
  go [] token

/-- Replaces the tokens of a text, given as characters. -/
def substituteChars {m : Type → Type} [Monad m] (lookup : String → m (Option String)) :
    List Char → m (List Char)
  | [] => pure []
  | '$' :: '$' :: '{' :: rest => do
    let tail ← substituteChars lookup rest
    pure ('$' :: '{' :: tail)
  | '$' :: '{' :: rest =>
    let token := rest.takeWhile (· != '}')
    match h : rest.dropWhile (· != '}') with
    | [] => pure ('$' :: '{' :: rest)
    | _ :: after => do
      let (key, fallback) := splitFallback token
      let found ← lookup (String.ofList key)
      let replacement : List Char := match found, fallback with
        | some v, _ => v.toList
        | none, some f => f
        | none, none => '$' :: '{' :: token ++ ['}']
      have : after.length < rest.length + 2 := by
        have hs := List.IsSuffix.length_le (List.dropWhile_suffix (p := (· != '}')) (l := rest))
        rw [h] at hs
        simp at hs
        omega
      let tail ← substituteChars lookup after
      pure (replacement ++ tail)
  | c :: rest => do
    let tail ← substituteChars lookup rest
    pure (c :: tail)
termination_by cs => cs.length

/-- Replaces the tokens of a text. -/
def substitute {m : Type → Type} [Monad m] (lookup : String → m (Option String)) (input : String) :
    m String := do
  pure (String.ofList (← substituteChars lookup input.toList))

end Template

end ConfigTree
