import Turnstile.Address
import Turnstile.Text.Blank

/-!
# Networks

A network is an address and a prefix length; an address is in it when it lies between the network's
first and last address. Entries of a list are read leniently: blanks around them are dropped, an
address alone is a network of one host, and a mapped network of the sixth version is stored as the
network of the fourth that it stands for.
-/

namespace Turnstile

/-- The addresses that agree with a given one on a number of leading bits. -/
inductive Network where
  | v4 (address : BitVec 32) (length : Nat) (length_le : length ≤ 32 := by omega)
  | v6 (address : BitVec 128) (length : Nat) (length_le : length ≤ 128 := by omega)
  deriving DecidableEq

/-- Why an entry is no network. -/
inductive NetworkError where
  | badSyntax
  | shortMapped
  deriving DecidableEq, Repr

/-- The wording of a network error. -/
def NetworkError.message : NetworkError → String
  | .badSyntax => "invalid IP address syntax"
  | .shortMapped => "IPv4-mapped prefix must be /96 or longer"

namespace Network

/-- The first number that agrees with `a` on all but the last `free` bits. -/
def lowest (a free : Nat) : Nat := a / Nat.pow 2 free * Nat.pow 2 free

/-- The last number that agrees with `a` on all but the last `free` bits. -/
def highest (a free : Nat) : Nat := lowest a free + (Nat.pow 2 free - 1)

/-- Whether an address is in the network. Addresses of the other family are not. -/
def contains : Network → Address → Bool
  | .v4 n length _, .v4 a =>
    lowest n.toNat (32 - length) ≤ a.toNat && a.toNat ≤ highest n.toNat (32 - length)
  | .v6 n length _, .v6 a =>
    lowest n.toNat (128 - length) ≤ a.toNat && a.toNat ≤ highest n.toNat (128 - length)
  | _, _ => false

/-- Whether an address is in any of the networks. -/
def anyContains (ns : List Network) (a : Address) : Bool := ns.any (·.contains a)

/-- The network of one host. -/
def host : Address → Network
  | .v4 a => .v4 a 32 (Nat.le_refl 32)
  | .v6 a => .v6 a 128 (Nat.le_refl 128)

/-- Reads the prefix length after a slash: so many digits at most, and no greater than `most`. -/
def readLength? (digits most : Nat) (cs : List Char) : Option { n : Nat // n ≤ most } := do
  let cs ← Address.readChar? '/' cs
  match ← Address.NumberForm.read? ⟨10, some digits, most + 1, true⟩ cs with
  | (n, []) => if h : n ≤ most then some ⟨n, h⟩ else none
  | _ => none

/-- Reads an address with a prefix length. -/
def readPrefixed? (s : String) : Option Network :=
  let as4 : Option Network := do
    let (a, cs) ← Address.read4? .lax s.toList
    let ⟨n, h⟩ ← readLength? 2 32 cs
    return .v4 a n h
  let as6 : Option Network := do
    let (a, cs) ← Address.read6? .lax s.toList
    let ⟨n, h⟩ ← readLength? 3 128 cs
    return .v6 a n h
  as4 <|> as6

/-- Reads a network or a single address. It is irreducible, as a text would otherwise be read wherever
what is made of it is compared. -/
@[irreducible] def read? (s : String) : Option Network := readPrefixed? s <|> (Address.read? s).map host

/-- The form in which a network is stored. A mapped network is that of the fourth version, and is
refused if it holds addresses that are not mapped. -/
def canonical? : Network → Except NetworkError Network
  | .v4 a n h => .ok (.v4 a n h)
  | .v6 a n h =>
    match Address.unmapped? a with
    | none => .ok (.v6 a n h)
    | some b =>
      if 96 ≤ n then
        .ok (.v4 (BitVec.ofNat 32 (lowest b.toNat (128 - n))) (n - 96))
      else .error .shortMapped

/-- Reads one entry of a list. -/
def ofEntry? (entry : String) : Except NetworkError Network :=
  match read? (Text.trim entry) with
  | some n => n.canonical?
  | none => .error .badSyntax

/-- Reads the entries of a list; the first bad one is given back without its blanks. -/
def ofEntries? : List String → Except (String × NetworkError) (List Network)
  | [] => .ok []
  | entry :: entries =>
    match ofEntry? entry with
    | .error e => .error (Text.trim entry, e)
    | .ok n => (ofEntries? entries).map (n :: ·)

end Network

end Turnstile
