import SavedNetworks.Roster
import SavedNetworks.Sighting.Cache
import SavedNetworks.Text.Ascii

/-!
Links between profiles that seem to be served by the same access points. Linked profiles lend each other
their channels. A link is written on both profiles, and one pass settles every link of one profile.
-/

namespace SavedNetworks

structure LinkRule where
  /-- A profile with more cached transmitters than this takes no part. -/
  maxCacheSize : Nat
  /-- How many leading characters of two transmitter addresses have to agree. -/
  matchLength : Nat
  onlySameCredential : Bool
deriving DecidableEq

namespace LinkRule

def default : LinkRule := ⟨6, 16, false⟩

end LinkRule

/-- The keys whose link to one profile a pass made or broke, in the order of ids. -/
structure LinkChanges where
  linked : List ProfileKey
  unlinked : List ProfileKey
deriving DecidableEq

abbrev Caches := SortedMap ProfileId SightingCache

namespace LinkRule

def isCrowded (rule : LinkRule) (cache : Option SightingCache) : Bool :=
  cache.any fun cache => rule.maxCacheSize < cache.size

/-- The texts of two addresses agree in their first `rule.matchLength` characters, and have that many. -/
def addressesMatch (rule : LinkRule) (left right : Address) : Bool :=
  rule.matchLength ≤ left.characters.length && rule.matchLength ≤ right.characters.length &&
    Text.sameLetters (left.characters.take rule.matchLength) (right.characters.take rule.matchLength)

def sharesTransmitter (rule : LinkRule) (left right : SightingCache) : Bool :=
  left.bssids.any fun here => right.bssids.any fun there => rule.addressesMatch here there

/-- Two profiles belong together if their gateways are the same; where one has no gateway, if they saw
transmitters with matching addresses. -/
def shouldLink (rule : LinkRule) (left right : Profile) (leftCache rightCache : Option SightingCache) : Bool :=
  if rule.onlySameCredential && left.preSharedKey != right.preSharedKey then false
  else
    match left.defaultGateway, right.defaultGateway with
    | some here, some there => Text.sameLetters here.toList there.toList
    | _, _ =>
      match leftCache, rightCache with
      | some leftCache, some rightCache => rule.sharesTransmitter leftCache rightCache
      | _, _ => false

/-- The profiles that a pass for `id` decides about. -/
def partners (rule : LinkRule) (roster : Roster) (caches : Caches) (id : ProfileId) : List Profile :=
  roster.visible.filter fun other =>
    other.id != id && !other.ephemeral && other.security.isPreSharedKey &&
      !rule.isCrowded (caches.get? other.id)

/-- Links or unlinks two profiles on both sides. -/
def settle (roster : Roster) (subject other : Profile) (link : Bool) : Roster :=
  if link then
    (roster.modify subject.id (·.link other.key)).modify other.id (·.link subject.key)
  else
    (roster.modify subject.id (·.unlink other.key)).modify other.id (·.unlink subject.key)

def isLinked (roster : Roster) (id : ProfileId) (key : ProfileKey) : Bool :=
  (roster.get? id).any (·.linked.contains key)

/-- Applies decisions one after the other and records those that change the subject. -/
def settleAll (subject : Profile) :
    List (Profile × Bool) → Roster × LinkChanges → Roster × LinkChanges
  | [], done => done
  | (other, link) :: rest, (roster, changes) =>
    let changes :=
      if isLinked roster subject.id other.key == link then changes
      else if link then { changes with linked := changes.linked ++ [other.key] }
      else { changes with unlinked := changes.unlinked ++ [other.key] }
    settleAll subject rest (settle roster subject other link, changes)

/-- Decides every link of one profile again. -/
def reconsider (rule : LinkRule) (roster : Roster) (caches : Caches) (id : ProfileId) :
    Roster × LinkChanges :=
  match roster.get? id with
  | none => (roster, ⟨[], []⟩)
  | some subject =>
    let cache := caches.get? id
    if !subject.security.isPreSharedKey || rule.isCrowded cache then (roster, ⟨[], []⟩)
    else
      let decisions := (rule.partners roster caches id).map fun other =>
        (other, rule.shouldLink subject other cache (caches.get? other.id))
      settleAll subject decisions (roster, ⟨[], []⟩)

theorem addressesMatch_comm (rule : LinkRule) (left right : Address) :
    rule.addressesMatch left right = rule.addressesMatch right left := by
  unfold addressesMatch
  rw [Text.sameLetters_comm]
  cases decide (rule.matchLength ≤ left.characters.length) <;>
    cases decide (rule.matchLength ≤ right.characters.length) <;> rfl

end LinkRule

end SavedNetworks
