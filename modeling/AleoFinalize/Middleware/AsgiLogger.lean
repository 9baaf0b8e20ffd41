import AleoFinalize.Interpreter.Types

/-!
**The access-log fields of the ASGI logger** (`middleware/asgi_logger/utils.py`).

* `getClientAddr` — `get_client_addr`: `host:port`, or `-` with no client;
* `quote` — `urllib.parse.quote` with its default `safe='/'`: the UTF-8 bytes of the text, each
  letter, digit, `_`, `.`, `-`, `~` and `/` kept as it is and every other byte written `%XX` in
  upper-case hexadecimal;
* `getPathWithQueryString` — `get_path_with_query_string`: the quoted root path and path, then `?`
  and the query string decoded as ASCII when there is one.
-/

namespace AleoFinalize.Middleware

/-- `get_client_addr`, on `scope["client"]`. -/
def getClientAddr (client : Option (String × Nat)) : String :=
  match client with
  | none => "-"
  | some (host, port) => host ++ ":" ++ toString port

/-- The bytes `quote` keeps: `_ALWAYS_SAFE` (ASCII letters, digits and `_.-~`) and `/`. -/
def quoteSafe (byte : Nat) : Bool :=
  (65 ≤ byte && byte ≤ 90) || (97 ≤ byte && byte ≤ 122) || (48 ≤ byte && byte ≤ 57) ||
    byte = 95 || byte = 46 || byte = 45 || byte = 126 || byte = 47

/-- An upper-case hexadecimal digit (`'{:02X}'`). -/
def hexDigit (digit : Nat) : Char :=
  Char.ofNat (if digit < 10 then 48 + digit else 55 + digit)

/-- What `quote` writes for one byte. -/
def quoteByte (byte : UInt8) : List Char :=
  if quoteSafe byte.toNat then [Char.ofNat byte.toNat]
  else ['%', hexDigit (byte.toNat / 16), hexDigit (byte.toNat % 16)]

/-- `quote(string)`: its UTF-8 encoding, byte by byte. -/
def quote (string : String) : String :=
  ⟨string.toUTF8.data.toList.flatMap quoteByte⟩

/-- `query_string.decode("ascii")`: a byte above 127 raises `UnicodeDecodeError`, a
`ValueError`. -/
def decodeAscii (bytes : List UInt8) : Except Fault String :=
  if bytes.all (·.toNat < 128) then .ok ⟨bytes.map fun byte => Char.ofNat byte.toNat⟩
  else .error .valueError

/-- `get_path_with_query_string`, on `scope.get("root_path")`, `scope["path"]` and
`scope["query_string"]`. -/
def getPathWithQueryString (rootPath : Option String) (path : String) (queryString : List UInt8) :
    Except Fault String :=
  let pathWithQueryString := quote (rootPath.getD "" ++ path)
  if queryString.isEmpty then .ok pathWithQueryString
  else return pathWithQueryString ++ "?" ++ (← decodeAscii queryString)

end AleoFinalize.Middleware
