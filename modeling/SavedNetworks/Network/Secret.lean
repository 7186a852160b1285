import SavedNetworks.Network.Enterprise

/-!
The mask that stands for a secret which is not shown. Sent back by a caller it means "as it was".
-/

namespace SavedNetworks

namespace Secret

def mask : String := "*"

/-- Hides a secret; an absent or empty one has nothing to hide. -/
def hide : Option String → Option String
  | some secret => some (if secret.isEmpty then secret else mask)
  | none => none

def update (stored given : Option String) : Option String :=
  match given with
  | some secret => if secret = mask then stored else some secret
  | none => stored

@[simp] theorem update_none (stored : Option String) : update stored none = stored := rfl

@[simp] theorem update_mask (stored : Option String) : update stored (some mask) = stored := by
  simp [update]

theorem update_of_ne_mask (stored : Option String) {secret : String} (plain : secret ≠ mask) :
    update stored (some secret) = some secret := by
  simp [update, plain]

end Secret

namespace Enterprise

def hideSecrets (enterprise : Enterprise) : Enterprise :=
  { enterprise with password := Secret.hide enterprise.password }

/-- The credentials after a caller supplied `given`; certificates that it leaves out stay. -/
def update (stored given : Enterprise) : Enterprise :=
  { method := given.method
    identity := given.identity
    anonymousIdentity := given.anonymousIdentity
    password := Secret.update stored.password given.password
    caCertificate := given.caCertificate <|> stored.caCertificate
    clientCertificate := given.clientCertificate <|> stored.clientCertificate }

end Enterprise

end SavedNetworks
