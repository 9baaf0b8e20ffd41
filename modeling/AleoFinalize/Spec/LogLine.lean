import AleoFinalize.Middleware.AsgiLogger

/-!
**Reading an access-log path back.**

What a reader of the access log does with the field `get_path_with_query_string` writes: split it
at the first `?`, turn each `%XX` of the path back into the byte `XX` and each other character
into its own byte (`unquote`), and take the query string as written (`readLogPath`).
-/

namespace AleoFinalize.Middleware

/-- The value of an upper-case hexadecimal digit. -/
def hexValue (c : Char) : Option Nat :=
  if 48 ≤ c.toNat ∧ c.toNat ≤ 57 then some (c.toNat - 48)
  else if 65 ≤ c.toNat ∧ c.toNat ≤ 70 then some (c.toNat - 55)
  else none

/-- The bytes a quoted text stands for: `%XX` is the byte `XX`, a kept character its own byte;
anything else is not the output of `quote`. -/
def unquote : List Char → Option (List UInt8)
  | [] => some []
  | c :: rest =>
    if c = '%' then
      match rest with
      | high :: low :: rest => do
        let high ← hexValue high
        let low ← hexValue low
        return (16 * high + low).toUInt8 :: (← unquote rest)
      | _ => none
    else if quoteSafe c.toNat then (c.toNat.toUInt8 :: ·) <$> unquote rest else none

/-- A log field read back: the bytes of the path before the first `?`, and the query string
after it. -/
def readLogPath (line : String) : Option (List UInt8 × List UInt8) := do
  let path ← unquote (line.data.takeWhile (· != '?'))
  return (path, ((line.data.dropWhile (· != '?')).drop 1).map fun c => c.toNat.toUInt8)

end AleoFinalize.Middleware
