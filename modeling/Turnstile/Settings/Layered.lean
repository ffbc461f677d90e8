import Turnstile.Limiter
import Turnstile.Settings.Layer
import Turnstile.Settings.Reading
import Turnstile.Text.Octets
import Turnstile.Word

/-!
# Settings from a file and the environment

The values of a file, with those of the environment laid over them, are read with good will: texts are
taken for numbers and numbers for texts, and a list may stand for the members of a record in their order.

* `Datum`: a value as the lenient reading of a document understands it.
* `Layers`: the values of the file and those of the environment.
* `Loose`: readers of such values.
* `Settings.ofLayers`: the settings.
-/

namespace Turnstile

/-! ## Data in a document -/

/-- A value as the lenient reading of a document understands it. -/
inductive Datum where
  | null
  /-- A value that is not of the type it is tagged with. -/
  | bad
  | bool (b : Bool)
  | int (n : Int)
  | real (text : String)
  | text (s : String)
  | array (items : List Datum)
  | table (entries : List (Datum × Datum))
  deriving Inhabited

namespace Datum

/-- A whole number of 64 bits with an optional sign, in digits of a base. -/
def intOf? (base : Nat) (cs : List Char) : Option Int :=
  let n := match cs with
    | '-' :: ds => (Reading.digitsOf? base ds).map fun n => -Int.ofNat n
    | '+' :: ds => (Reading.digitsOf? base ds).map Int.ofNat
    | ds => (Reading.digitsOf? base ds).map Int.ofNat
  n.filter fun n => Word.holds n

/-- Whether a text is a number, infinities and not-a-number included. -/
def isReal (s : String) : Bool :=
  s ∈ [".inf", ".Inf", ".INF", "+.inf", "+.Inf", "+.INF", "-.inf", "-.Inf", "-.INF",
    ".nan", "NaN", ".NAN"] || (Decimal.read? s).isSome

/-- The value of a plain scalar without a tag. -/
def ofPlain (s : String) : Datum :=
  let cs := s.toList
  let based := match cs with
    | '0' :: 'x' :: ds => intOf? 16 ds
    | '0' :: 'o' :: ds => intOf? 8 ds
    | '+' :: ds => intOf? 10 ds
    | _ => none
  match based with
  | some n => .int n
  | none =>
    if s = "~" ∨ s = "null" then .null
    else if s = "true" then .bool true
    else if s = "false" then .bool false
    else
      match intOf? 10 cs with
      | some n => .int n
      | none => if isReal s then .real s else .text s

/-- The value of a plain scalar that is tagged with a type. -/
def ofTagged (type s : String) : Datum :=
  if type = "bool" then
    if s = "true" then .bool true else if s = "false" then .bool false else .bad
  else if type = "int" then
    match intOf? 10 s.toList with
    | some n => .int n
    | none => .bad
  else if type = "float" then if isReal s then .real s else .bad
  else if type = "null" then if s = "~" ∨ s = "null" then .null else .bad
  else .text s

/-- The value of a scalar. -/
def ofScalar (p : Yaml.Properties) (style : Yaml.Style) (s : String) : Datum :=
  if style ≠ .plain then .text s
  else
    match p.tag with
    | some t => if t.handle = "!!" then ofTagged t.suffix s else .text s
    | none => ofPlain s

/-- Keys with their values. A bad value is passed over where a key should be. -/
def pairUp : List Datum → List (Datum × Datum)
  | .bad :: rest => pairUp rest
  | k :: v :: rest => (k, v) :: pairUp rest
  | _ => []

/-- A reader that knows the values that anchors stand for so far. -/
abbrev Build := StateM (List (Nat × Datum))

/-- Notes the value that an anchor stands for. -/
def remember (p : Yaml.Properties) (d : Datum) : Build Datum := do
  match p.anchor with
  | none => return d
  | some n =>
    modify ((n, d) :: ·)
    return d

mutual

/-- The value of a node. An alias within what it is an alias of has none. -/
def ofNode : Yaml.Node → Build Datum
  | .absent => return .null
  | .alias n => return ((← get).lookup n).getD .bad
  | .scalar p style s => remember p (ofScalar p style s)
  | .sequence p items => do remember p (.array (← ofNodes items))
  | .mapping p members => do remember p (.table (pairUp (← ofNodes members)))

/-- The values of nodes in turn. -/
def ofNodes : List Yaml.Node → Build (List Datum)
  | [] => return []
  | n :: ns => do return (← ofNode n) :: (← ofNodes ns)

end

/-- The name that a key stands for. -/
def keyName? : Datum → Option String
  | .text s => some s
  | .int n => some (toString n)
  | _ => none

/-- Whether two keys are the same text or the same number. -/
def sameKey : Datum → Datum → Bool
  | .text s, .text t => s == t
  | .int m, .int n => m == n
  | _, _ => false

mutual

/-- The value for a layer. Infinities and not-a-number as documents write them are refused, and keys that
have no name break the reading down. -/
def toValue : Datum → Except (Failure Unit) Value
  | .null => .ok .null
  | .bad => .ok .null
  | .bool b => .ok (.bool b)
  | .int n => .ok (.int n)
  | .real s =>
    match Decimal.read? s with
    | some x => .ok (.float x)
    | none => .error (.reported ())
  | .text s => .ok (.text s)
  | .array items => return .array (← toValues items)
  | .table entries => return .table (← toEntries entries)

/-- The values for a layer in turn. -/
def toValues : List Datum → Except (Failure Unit) (List Value)
  | [] => .ok []
  | d :: ds => do return (← toValue d) :: (← toValues ds)

/-- The entries of a table, the last one of each key. -/
def toEntries : List (Datum × Datum) → Except (Failure Unit) (List (String × Value))
  | [] => .ok []
  | (k, d) :: rest =>
    if rest.any fun e => sameKey k e.1 then toEntries rest
    else
      match keyName? k with
      | none => .error .breakdown
      | some name => do
        let v ← toValue d
        let es ← toEntries rest
        return if es.any (·.1 == name) then es else (name, v) :: es

end

end Datum

/-! ## Layers -/

namespace Layers

/-- The characters of a text without the mark at its beginning that tells the order of octets. -/
def unmarked : List Char → List Char
  | '\ufeff' :: cs => cs
  | cs => cs

/-- The values of a file: a table, which is empty if the file has no document. -/
def ofFile (octets : List UInt8) : Except (Failure Unit) (List (String × Value)) :=
  match Yaml.Document.stream? .lenient (String.ofList (unmarked (Text.decodeOctets octets))) with
  | some [] => .ok []
  | some [d] =>
    match ((Datum.ofNode d.root).run []).1.toValue with
    | .ok (.table es) => .ok es
    | .ok _ => .error (.reported ())
    | .error e => .error e
  | _ => .error (.reported ())

/-- What the names of variables begin with that hold settings. -/
def variableStart : List Char := "gatehouse__".toList

/-- The path of a name: a dot for each two underscores. -/
def dotted : List Char → List Char
  | '_' :: '_' :: cs => '.' :: dotted cs
  | c :: cs => c :: dotted cs
  | [] => []

/-- The value in a variable: a truth value or a number if it is one. -/
def ofText (s : String) : Value :=
  let word := Text.lowerAscii s
  if word = "true" then .bool true
  else if word = "false" then .bool false
  else
    match Datum.intOf? 10 s.toList with
    | some n => .int n
    | none =>
      match Decimal.read? s with
      | some x => .float x
      | none => .text s

/-- The path and the value of a variable, if it holds settings. -/
def ofVariable? (v : String × String) : Option (String × Value) :=
  let name := (Value.lowerKey v.1).toList
  if variableStart.isPrefixOf name then
    some (String.ofList (dotted (name.drop variableStart.length)), ofText v.2)
  else none

/-- The values of a file with those of the environment laid over them. -/
def merge (file : List (String × Value)) (environment : List (String × String)) : Option Value :=
  (file ++ environment.filterMap ofVariable?).foldlM (fun root e => Value.putText? e.1 e.2 root)
    (.table [])

end Layers

/-! ## Reading with good will -/

namespace Loose

/-- Words for truth values. -/
def boolOf? (s : String) : Option Bool :=
  let s := Text.lowerAscii s
  if s ∈ ["true", "on", "yes"] then some true
  else if s ∈ ["false", "off", "no"] then some false
  else none

/-- Reads a truth value. Numbers other than zero are true. -/
def bool : Value → Option Bool
  | .bool b => some b
  | .int n => some (n ≠ 0)
  | .float x => some (x != 0.0)
  | .text s => if s = "1" then some true else if s = "0" then some false else boolOf? s
  | _ => none

/-- The whole number of 64 bits nearest to a number, a half rounded up. -/
def nearestWord (x : Float) : Nat :=
  match Binary.view x with
  | .notANumber => 0
  | .infinite negative => if negative then 0 else Word.bound64 - 1
  | .finite negative m e =>
    if negative then 0
    else 
      let den := Nat.pow 2 (-e).toNat
      min (Word.bound64 - 1) ((2 * m * Nat.pow 2 e.toNat + den) / (2 * den))

/-- Reads a whole number of 64 bits. -/
def word64 : Value → Option Nat
  | .int n => if n < 0 then none else some n.toNat
  | .bool b => some b.toNat
  | .float x => some (nearestWord x)
  | .text s =>
    match boolOf? s with
    | some b => some b.toNat
    | none =>
      let cs := s.toList
      let ds := if cs.head? = some '+' then cs.drop 1 else cs
      (Reading.digitsOf? 10 ds).filter (· < Word.bound64)
  | _ => none

/-- Reads a whole number of 32 bits. -/
def word32 (v : Value) : Option Nat := (word64 v).filter (· < Word.bound32)

/-- Reads a number. -/
def float : Value → Option Float
  | .float x => some x
  | .int n => some (Binary.ofRatio (n < 0) n.natAbs 1)
  | .bool b => some (if b then 1.0 else 0.0)
  | .text s =>
    match boolOf? s with
    | some b => some (if b then 1.0 else 0.0)
    | none => Decimal.read? s
  | _ => none

/-- Reads a text. -/
def text : Value → Option String
  | .text s => some s
  | .bool b => some (if b then "true" else "false")
  | .int n => some (toString n)
  | .float x => some (Decimal.plain x)
  | _ => none

/-- Reads a value that may be left open. -/
def optional (f : Value → Option α) : Value → Option (Option α)
  | .null => some none
  | v => some <$> f v

/-- Reads a list. -/
def list (f : Value → Option α) : Value → Option (List α)
  | .array xs => xs.mapM f
  | _ => none

/-- Reads one of several names in any case; a table of one entry stands for its key. -/
def choice (names : List (String × α)) : Value → Option α
  | .text s => names.lookup (Text.lowerAscii s)
  | .table [(name, _)] => names.lookup (Text.lowerAscii name)
  | _ => none

/-! ## Records -/

/-- What the members of a record are looked up in. -/
inductive Record where
  | named (entries : List (String × Value))
  | listed (items : List Value)

/-- Reads the members of a record, by name or in their order. -/
def record : Value → Option Record
  | .table es => some (.named es)
  | .array xs => some (.listed xs)
  | _ => none

/-- The member of a name that is at a place in the order. -/
def Record.member? (r : Record) (place : Nat) (name : String) : Option Value :=
  match r with
  | .named es => es.lookup name
  | .listed xs => xs[place]?

/-- Reads a member that has to be there. -/
def Record.required (r : Record) (place : Nat) (name : String) (f : Value → Option α) : Option α :=
  (r.member? place name).bind f

/-- Reads a member that has a default. -/
def Record.orElse (r : Record) (place : Nat) (name : String) (default : α) (f : Value → Option α) :
    Option α :=
  match r.member? place name with
  | some v => f v
  | none => some default

/-- Reads a member that may be left open, and be left out where members are named. -/
def Record.optional (r : Record) (place : Nat) (name : String) (f : Value → Option α) :
    Option (Option α) :=
  match r.member? place name, r with
  | some v, _ => Loose.optional f v
  | none, .named _ => some none
  | none, .listed _ => none

/-! ## Settings -/

/-- Reads a span of time in seconds. -/
def duration (v : Value) : Option Duration := do
  match Duration.ofSeconds? (← float v) with
  | .ok d => some d
  | .error _ => none

/-- Reads a rate limit. -/
def rateLimit (v : Value) : Option RateLimit := do
  let r ← record v
  return { rate := ← r.required 0 "rate" word32, window := ← r.required 1 "window" duration }

/-- Reads a policy. -/
def policy (v : Value) : Option PolicySettings := do
  let r ← record v
  return {
    rateLimit := ← r.orElse 0 "rate_limit" none (optional rateLimit)
    timeoutSeconds := ← r.orElse 1 "timeout_secs" none (optional float)
    authRequired := ← r.orElse 2 "auth_required" false bool }

/-- Reads a rule. -/
def rule (v : Value) : Option RuleSettings := do
  let r ← record v
  return {
    exact := ← r.optional 0 "exact" text
    beginning := ← r.optional 1 "prefix" text
    pattern := ← r.optional 2 "pattern" text }

/-- Reads a group. -/
def group (v : Value) : Option GroupSettings := do
  let r ← record v
  return {
    name := ← r.required 0 "name" text
    rules := ← r.orElse 1 "rules" [] (list rule)
    policy := ← r.optional 2 "policy" policy }

/-- Reads a configuration of admission. -/
def admission (v : Value) : Option AdmissionConfig := do
  let r ← record v
  return {
    mode := ← r.required 0 "mode" (choice Reading.modeNames)
    cidrs := ← r.orElse 1 "cidrs" [] (list text)
    trustedProxies := ← r.orElse 2 "trusted_proxies" [] (list text)
    headerPriority := ← r.orElse 3 "header_priority" [] (list text) }

/-- Reads a global rate limit. -/
def globalLimit (v : Value) : Option RateLimitSettings := do
  let r ← record v
  return {
    requestsPerSecond := ← r.required 0 "requests_per_second" float
    burst := ← r.required 1 "burst" word32 }

/-- Reads how much a cache holds. -/
def cache (v : Value) : Option Nat := do (← record v).required 0 "max_entries" word64

/-- Reads settings. -/
def settings (v : Value) : Option Settings := do
  let r ← record v
  return {
    recovery := ← r.orElse 0 "recovery" true bool
    requestId := ← r.orElse 1 "request_id" false bool
    span := ← r.orElse 2 "span" false bool
    admission := ← r.orElse 3 "ip_block" none (optional admission)
    rateLimit := ← r.orElse 4 "rate_limit" none (optional globalLimit)
    groups := ← r.orElse 5 "groups" [] (list group)
    cache := ← r.orElse 6 "cache" none (optional cache) }

end Loose

/-- The settings in a file with the given content, if it is there, under those of the environment. -/
def Settings.ofLayers (content : Option (List UInt8)) (environment : List (String × String)) :
    Except (Failure SettingsError) Settings :=
  match content with
  | none => .error (.reported .malformed)
  | some octets =>
    match Layers.ofFile octets with
    | .error e => .error (e.map fun _ => .malformed)
    | .ok file =>
      match Layers.merge file environment with
      | none => .error .breakdown
      | some v =>
        match Loose.settings v with
        | some s => .ok s
        | none => .error (.reported .malformed)

end Turnstile
