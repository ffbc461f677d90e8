import Turnstile.Policy

/-!
# Resolving methods to groups

The group of a method is the one with the most specific matching rule. On a full tie the group that was
registered first wins, so a later match has to be strictly better to take the place of an earlier one.
-/

namespace Turnstile

/-- Groups in the order in which they were registered. -/
structure Resolver where
  groups : List Group

namespace Resolver

/-- Every match of a method: the rank of a rule and the group the rule belongs to, in order. -/
def candidates (r : Resolver) (method : String) : List (Rank × Group) :=
  r.groups.flatMap fun g => (g.rules.filterMap (Rule.rank? method)).map fun rank => (rank, g)

/-- The better of what was best so far and the next match. -/
def better (best : Option (Rank × Group)) (next : Rank × Group) : Option (Rank × Group) :=
  match best with
  | none => some next
  | some b => if next.1.beats b.1 then some next else some b

/-- The group of a method. -/
def group? (r : Resolver) (method : String) : Option Group :=
  ((r.candidates method).foldl better none).map Prod.snd

/-- The name and the policy of a method's group. -/
def resolve? (r : Resolver) (method : String) : Option (String × Option Policy) :=
  (r.group? method).map fun g => (g.name, g.policy)

end Resolver

end Turnstile
