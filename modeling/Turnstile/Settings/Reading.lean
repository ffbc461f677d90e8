import Turnstile.Settings
import Turnstile.Word
import Turnstile.Yaml.Document

/-!
# Settings from a document

Settings as a single document holds them. Nothing is guessed: a number is no text and a text no number,
a member may not be given twice, and what has no default has to be there. Members that nobody knows are
passed over.

* `Reading`: a reader of nodes, which follows aliases.
* `Settings.ofText`: the settings in a text.
* `Settings.ofFile`: the settings in a file.
-/

namespace Turnstile

open Yaml (Node Style Properties)

namespace Reading

/-! ## Following aliases -/

/-- What the readers look up: the node behind each anchor, and how many aliases may be followed. -/
structure Source where
  document : Yaml.Document
  limit : Nat

/-- A reader, which counts the aliases that it followed. -/
abbrev Read := ReaderT Source (StateT Nat Option)

/-- How many names come before the anchor of a number. -/
def namesBefore (names : List String) (anchor : Nat) : Nat := (names.take anchor).eraseDups.length

/-- The anchor whose node an alias stands for. Anchors with equally many names before them share a node,
which is that of the last of them. -/
def referent (names : List String) (anchor : Nat) : Nat :=
  let shared (k : Nat) : Bool := namesBefore names k == namesBefore names anchor
  ((List.range names.length).filter shared).getLast?.getD anchor

/-- The node, or the one that it is an alias of. -/
def follow (n : Node) : Read Node := do
  match n with
  | .alias anchor =>
    let s ← read
    modify (· + 1)
    if s.limit < (← get) then failure
    else
      match s.document.anchored? (referent s.document.anchors anchor) with
      | some n => return n
      | none => failure
  | .absent => return .scalar {} .plain ""
  | n => return n

/-! ## Scalars -/

/-- The name of the tag of one of the types that the notation knows. -/
def typeTag (type : String) : String := "tag:yaml.org,2002:" ++ type

/-- The name of a scalar's tag. An exclamation mark alone says nothing about a text, but stands where
there is none. -/
def tagName (p : Properties) (style : Style) (text : String) : Option String :=
  match p.tag with
  | none => none
  | some t => if t.name = "!" && !(style == .plain && text.isEmpty) then none else some t.name

/-- Whether the text of a scalar may be read as a value of a type. -/
def readsAs (type : String) (p : Properties) (style : Style) (text : String) : Bool :=
  match style with
  | .plain => true
  | .literal => tagName p style text == some (typeTag type)
  | _ => false

/-- Reads a scalar of a type. -/
def typed (type : String) (parse : String → Option α) (n : Node) : Read α := do
  match ← follow n with
  | .scalar p style text =>
    match parse text with
    | some a => if readsAs type p style text then return a else failure
    | none => failure
  | _ => failure

/-- The words for truth values. -/
def boolOf? (s : String) : Option Bool :=
  if s = "true" ∨ s = "True" ∨ s = "TRUE" then some true
  else if s = "false" ∨ s = "False" ∨ s = "FALSE" then some false
  else none

/-- The number that digits of a base stand for. -/
def digitsOf? (base : Nat) (cs : List Char) : Option Nat :=
  if cs.isEmpty then none
  else cs.foldlM (fun n c => do
    let d ← Yaml.hexValue? c
    if d < base then return base * n + d else none) 0

/-- The number of a numeral below a bound. A sign is allowed, a leading zero before other digits is not;
`0x`, `0o` and `0b` tell the base. -/
def unsignedOf? (bound : Nat) (s : String) : Option Nat :=
  let cs := s.toList
  let cs := if cs.head? = some '+' then cs.drop 1 else cs
  let n := match cs with
    | '0' :: 'x' :: ds => digitsOf? 16 ds
    | '0' :: 'o' :: ds => digitsOf? 8 ds
    | '0' :: 'b' :: ds => digitsOf? 2 ds
    | '0' :: _ :: _ => none
    | ds => digitsOf? 10 ds
  n.filter (· < bound)

/-- The number that a numeral stands for. Infinities and not-a-number have words of their own. -/
def floatOf? (s : String) : Option Float :=
  let cs := s.toList
  let unsigned := if cs.head? = some '+' then cs.drop 1 else cs
  if cs.head? = some '+' ∧ (unsigned.head? = some '+' ∨ unsigned.head? = some '-') then none
  else
    let word := String.ofList unsigned
    if word ∈ [".inf", ".Inf", ".INF"] then some (Binary.infinity false)
    else if s ∈ ["-.inf", "-.Inf", "-.INF"] then some (Binary.infinity true)
    else if s ∈ [".nan", ".NaN", ".NAN"] then some Binary.nan
    else (Decimal.read? word).filter fun x => x.isFinite

/-- Whether a word stands for no value. -/
def isNull (s : String) : Bool := s ∈ ["null", "Null", "NULL", "~"]

/-- Reads a truth value. -/
def bool : Node → Read Bool := typed "bool" boolOf?

/-- Reads a number of 32 bits. -/
def word32 : Node → Read Nat := typed "int" (unsignedOf? Word.bound32)

/-- Reads a number of 64 bits. -/
def word64 : Node → Read Nat := typed "int" (unsignedOf? Word.bound64)

/-- Reads a number. -/
def float : Node → Read Float := typed "float" floatOf?

/-- Reads a text; any scalar is one. -/
def text (n : Node) : Read String := do
  match ← follow n with
  | .scalar _ _ text => return text
  | _ => failure

/-! ## Choices -/

/-- Reads a value that may be left open, by a word for none or by nothing. -/
def optional (f : Node → Read α) (n : Node) : Read (Option α) := do
  match ← follow n with
  | .scalar p style text =>
    let n := Node.scalar p style text
    if style ≠ .plain then some <$> f n
    else
      match tagName p style text with
      | some t =>
        if t = typeTag "null" then
          if isNull text then return none else failure
        else some <$> f n
      | none => if text.isEmpty || isNull text then return none else some <$> f n
  | n => some <$> f n

/-- Reads one of several names, which stands as a text or as a tag of its own on nothing. -/
def choice (names : List (String × α)) (n : Node) : Read α := do
  let named (s : String) : Read α :=
    match names.lookup s with
    | some a => return a
    | none => failure
  match ← follow n with
  | .scalar p style text =>
    match (tagName p style text).map String.toList with
    | some ('!' :: name) =>
      if style = .plain && (text.isEmpty || isNull text) then named (String.ofList name) else failure
    | _ => named text
  | _ => failure

/-! ## Collections -/

/-- Reads a list. Nothing stands for the empty one. -/
def list (f : Node → Read α) (n : Node) : Read (List α) := do
  match ← follow n with
  | .sequence _ items => items.mapM f
  | .scalar _ .plain text => if text.isEmpty then return [] else failure
  | _ => failure

/-- The keys of a mapping with their values. -/
def pairs : List Node → Read (List (String × Node))
  | k :: v :: rest => do
    let name ← text k
    return (name, v) :: (← pairs rest)
  | _ => return []

/-- Reads the members of a mapping. Nothing stands for the empty one. -/
def members (n : Node) : Read (List (String × Node)) := do
  match ← follow n with
  | .mapping _ members => pairs members
  | .scalar _ .plain text => if text.isEmpty then return [] else failure
  | _ => failure

/-- The member of a name, which may not be there twice. -/
def member? (ms : List (String × Node)) (name : String) : Read (Option Node) :=
  match ms.filter (·.1 == name) with
  | [] => return none
  | [m] => return some m.2
  | _ => failure

/-- Reads a member that has to be there. -/
def required (ms : List (String × Node)) (name : String) (f : Node → Read α) : Read α := do
  match ← member? ms name with
  | some n => f n
  | none => failure

/-- Reads a member that has a default. -/
def orElse (ms : List (String × Node)) (name : String) (default : α) (f : Node → Read α) : Read α := do
  match ← member? ms name with
  | some n => f n
  | none => return default

/-! ## Settings -/

/-- Reads a span of time in seconds. -/
def duration (n : Node) : Read Duration := do
  match Duration.ofSeconds? (← float n) with
  | .ok d => return d
  | .error _ => failure

/-- The names of the ways to read a list of networks. -/
def modeNames : List (String × AdmissionMode) :=
  [("allow_list", .allowList), ("deny_list", .denyList)]

/-- Reads a rate limit. -/
def rateLimit (n : Node) : Read RateLimit := do
  let ms ← members n
  return { rate := ← required ms "rate" word32, window := ← required ms "window" duration }

/-- Reads a policy. -/
def policy (n : Node) : Read PolicySettings := do
  let ms ← members n
  return {
    rateLimit := ← orElse ms "rate_limit" none (optional rateLimit)
    timeoutSeconds := ← orElse ms "timeout_secs" none (optional float)
    authRequired := ← orElse ms "auth_required" false bool }

/-- Reads a rule. -/
def rule (n : Node) : Read RuleSettings := do
  let ms ← members n
  return {
    exact := ← orElse ms "exact" none (optional text)
    beginning := ← orElse ms "prefix" none (optional text)
    pattern := ← orElse ms "pattern" none (optional text) }

/-- Reads a group. -/
def group (n : Node) : Read GroupSettings := do
  let ms ← members n
  return {
    name := ← required ms "name" text
    rules := ← orElse ms "rules" [] (list rule)
    policy := ← orElse ms "policy" none (optional policy) }

/-- Reads a configuration of admission. -/
def admission (n : Node) : Read AdmissionConfig := do
  let ms ← members n
  return {
    mode := ← required ms "mode" (choice modeNames)
    cidrs := ← orElse ms "cidrs" [] (list text)
    trustedProxies := ← orElse ms "trusted_proxies" [] (list text)
    headerPriority := ← orElse ms "header_priority" [] (list text) }

/-- Reads a global rate limit. -/
def globalLimit (n : Node) : Read RateLimitSettings := do
  let ms ← members n
  return {
    requestsPerSecond := ← required ms "requests_per_second" float
    burst := ← required ms "burst" word32 }

/-- Reads how much a cache holds. -/
def cache (n : Node) : Read Nat := do required (← members n) "max_entries" word64

/-- Reads settings. -/
def settings (n : Node) : Read Settings := do
  let ms ← members n
  return {
    recovery := ← orElse ms "recovery" true bool
    requestId := ← orElse ms "request_id" false bool
    span := ← orElse ms "span" false bool
    admission := ← orElse ms "ip_block" none (optional admission)
    rateLimit := ← orElse ms "rate_limit" none (optional globalLimit)
    groups := ← orElse ms "groups" [] (list group)
    cache := ← orElse ms "cache" none (optional cache) }

/-- How many aliases may be followed for each event of a document. -/
def aliasesPerEvent : Nat := 100

end Reading

namespace Settings

/-- The settings in a document. -/
def ofDocument? (d : Yaml.Document) : Option Settings :=
  ((Reading.settings d.root).run ⟨d, Reading.aliasesPerEvent * d.root.events⟩).run' 0

/-- The settings in a text: those of its only document, or the defaults if it has none. -/
def ofText? (s : String) : Option Settings :=
  match Yaml.Document.stream? .strict s with
  | some [] => some {}
  | some [d] => ofDocument? d
  | _ => none

/-- The settings in a text, or the error that there are none. -/
def ofText (s : String) : Except GateError Settings :=
  match ofText? s with
  | some s => .ok s
  | none => .error (.config "Failed to parse YAML")

end Settings

/-- Why there are no settings in a file. -/
inductive SettingsError where
  /-- The file is not there or holds no text. -/
  | unreadable
  | gate (e : GateError)
  /-- The file and the environment do not make settings. -/
  | malformed
  deriving DecidableEq, Repr

/-- The settings in a file with the given content, if it is there. -/
def Settings.ofFile (content : Option ByteArray) : Except SettingsError Settings :=
  match content.bind String.fromUTF8? with
  | some s => (Settings.ofText s).mapError .gate
  | none => .error .unreadable

end Turnstile
