import MediaCenter.Model.Shared.Models

/-!
# `json.dumps(payload, sort_keys=True)`

The canonical text every service hashes: keys in code point order, `", "` and `": "` as
separators, everything outside printable ASCII escaped.
-/

set_option autoImplicit false

namespace MediaCenter.Shared

def hexDigitOf (n : ℕ) : Char := "0123456789abcdef".toList.getD (n % 16) '0'

/-- `\uXXXX`. -/
def unicodeEscape (n : ℕ) : List Char :=
  ['\\', 'u', hexDigitOf (n / 4096), hexDigitOf (n / 256), hexDigitOf (n / 16), hexDigitOf n]

def escapeChar (c : Char) : List Char :=
  if c = '"' then ['\\', '"']
  else if c = '\\' then ['\\', '\\']
  else if c = '\n' then ['\\', 'n']
  else if c = '\r' then ['\\', 'r']
  else if c = '\t' then ['\\', 't']
  else if c.toNat = 12 then ['\\', 'f']
  else if c.toNat = 8 then ['\\', 'b']
  else if 32 ≤ c.toNat ∧ c.toNat ≤ 126 then [c]
  else if c.toNat < 65536 then unicodeEscape c.toNat
  else
    -- a surrogate pair, as `ensure_ascii` writes the supplementary planes
    unicodeEscape (55296 + (c.toNat - 65536) / 1024) ++
      unicodeEscape (56320 + (c.toNat - 65536) % 1024)

def quote (s : String) : String :=
  String.ofList ('"' :: (s.toList.flatMap escapeChar ++ ['"']))

/-- Sort rendered pairs by key; the sort is stable. -/
def sortPairs (l : List (String × String)) : List (String × String) :=
  l.insertionSort fun a b => a.1 ≤ b.1

mutual

def dumps (py : Stdlib) : JSONValue → String
  | .null => "null"
  | .bool true => "true"
  | .bool false => "false"
  | .int n => toString n
  | .float x => py.reprFloat x
  | .str s => quote s
  | .list items => "[" ++ ", ".intercalate (dumpsItems py items) ++ "]"
  | .dict items =>
      "\x7b" ++ ", ".intercalate ((sortPairs (dumpsPairs py items)).map
        fun p => quote p.1 ++ ": " ++ p.2) ++ "\x7d"

def dumpsItems (py : Stdlib) : List JSONValue → List String
  | [] => []
  | v :: vs => dumps py v :: dumpsItems py vs

def dumpsPairs (py : Stdlib) : JSONObject → List (String × String)
  | [] => []
  | (k, v) :: rest => (k, dumps py v) :: dumpsPairs py rest

end

/-! ## `json.dumps(payload, ensure_ascii=False)`

The text of an error response: keys in insertion order, only the control characters escaped. -/

def escapeControlChar (c : Char) : List Char :=
  if c.toNat < 32 ∨ c = '"' ∨ c = '\\' then escapeChar c else [c]

def quoteUnicode (s : String) : String :=
  String.ofList ('"' :: (s.toList.flatMap escapeControlChar ++ ['"']))

mutual

def dumpsUnicode (py : Stdlib) : JSONValue → String
  | .null => "null"
  | .bool true => "true"
  | .bool false => "false"
  | .int n => toString n
  | .float x => py.reprFloat x
  | .str s => quoteUnicode s
  | .list items => "[" ++ ", ".intercalate (dumpsUnicodeItems py items) ++ "]"
  | .dict items => "\x7b" ++ ", ".intercalate (dumpsUnicodePairs py items) ++ "\x7d"

def dumpsUnicodeItems (py : Stdlib) : List JSONValue → List String
  | [] => []
  | v :: vs => dumpsUnicode py v :: dumpsUnicodeItems py vs

def dumpsUnicodePairs (py : Stdlib) : JSONObject → List String
  | [] => []
  | (k, v) :: rest => (quoteUnicode k ++ ": " ++ dumpsUnicode py v) :: dumpsUnicodePairs py rest

end

/-! ## `json.dumps(payload, ensure_ascii=False, separators=(",", ":"), sort_keys=True)`

The text of a signed token: keys in code point order, without spaces. -/

mutual

def dumpsCompact (py : Stdlib) : JSONValue → String
  | .null => "null"
  | .bool true => "true"
  | .bool false => "false"
  | .int n => toString n
  | .float x => py.reprFloat x
  | .str s => quoteUnicode s
  | .list items => "[" ++ ",".intercalate (dumpsCompactItems py items) ++ "]"
  | .dict items =>
      "\x7b" ++ ",".intercalate ((sortPairs (dumpsCompactPairs py items)).map
        fun p => quoteUnicode p.1 ++ ":" ++ p.2) ++ "\x7d"

def dumpsCompactItems (py : Stdlib) : List JSONValue → List String
  | [] => []
  | v :: vs => dumpsCompact py v :: dumpsCompactItems py vs

def dumpsCompactPairs (py : Stdlib) : JSONObject → List (String × String)
  | [] => []
  | (k, v) :: rest => (k, dumpsCompact py v) :: dumpsCompactPairs py rest

end

/-- `hashlib.sha256(json.dumps(payload, sort_keys=True).encode()).hexdigest()`. -/
def hashJsonPayload (py : Stdlib) (payload : JSONObject) : String :=
  py.sha256Hex (dumps py (.dict payload))

theorem auditHashPattern_hashJsonPayload (py : Stdlib) (payload : JSONObject) :
    auditHashPattern (hashJsonPayload py payload) = true :=
  py.sha256Hex_pattern _

/-! ## The `json` module -/

/-- `json.dumps(value, ensure_ascii=False)`, without and with `sort_keys=True`, and
`json.loads`. -/
structure JsonCodec where
  dumps : JSONValue → Except SharedException String
  dumpsSorted : JSONValue → Except SharedException String
  loads : String → Except SharedException JSONValue

/-- The items of an object in the order of their keys. -/
def sortKeys (items : JSONObject) : JSONObject := items.insertionSort fun a b => a.1 ≤ b.1

namespace JSONValue

mutual

/-- The value with the keys of every object in order: two values are equal in Python exactly
if they are the same in this form. -/
def sorted : JSONValue → JSONValue
  | .null => .null
  | .bool b => .bool b
  | .int n => .int n
  | .float x => .float x
  | .str s => .str s
  | .list items => .list (sortedItems items)
  | .dict items => .dict (sortKeys (sortedPairs items))

def sortedItems : List JSONValue → List JSONValue
  | [] => []
  | v :: vs => v.sorted :: sortedItems vs

def sortedPairs : JSONObject → JSONObject
  | [] => []
  | (k, v) :: rest => (k, v.sorted) :: sortedPairs rest

end

mutual

/-- No object holds a key twice, as no `dict` does. -/
def DistinctKeys : JSONValue → Prop
  | .null => True
  | .bool _ => True
  | .int _ => True
  | .float _ => True
  | .str _ => True
  | .list items => DistinctItems items
  | .dict items => (items.map Prod.fst).Nodup ∧ DistinctPairs items

def DistinctItems : List JSONValue → Prop
  | [] => True
  | v :: vs => v.DistinctKeys ∧ DistinctItems vs

def DistinctPairs : JSONObject → Prop
  | [] => True
  | (_, v) :: rest => v.DistinctKeys ∧ DistinctPairs rest

end

/-- `value.get(key)` of an object. -/
def item (key : String) (items : JSONObject) : Option JSONValue := items.lookup key

end JSONValue

/-- What is assumed of the `json` module: what it writes it reads back, sorted keys are the keys
in order, and what it reads holds no key twice.  A value is written if its parts are. -/
structure JsonCodec.Lawful (codec : JsonCodec) : Prop where
  loads_dumps : ∀ (v : JSONValue) (s : String), v.DistinctKeys → codec.dumps v = .ok s →
    codec.loads s = .ok v
  distinct_loads : ∀ (s : String) (v : JSONValue), codec.loads s = .ok v → v.DistinctKeys
  dumps_str : ∀ t : String, ∃ s, codec.dumps (.str t) = .ok s
  dumps_list : ∀ items : List JSONValue, (∃ s, codec.dumps (.list items) = .ok s) ↔
    ∀ v ∈ items, ∃ s, codec.dumps v = .ok s
  dumps_dict : ∀ items : JSONObject, (∃ s, codec.dumps (.dict items) = .ok s) ↔
    ∀ p ∈ items, ∃ s, codec.dumps p.2 = .ok s
  dumpsSorted_eq : ∀ v : JSONValue, codec.dumpsSorted v = codec.dumps v.sorted

end MediaCenter.Shared
