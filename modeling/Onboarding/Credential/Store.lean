/-
This file holds the stores for the token: the slot alone, or the slot and a file
on a disk.
-/

import Onboarding.Files.Disk

namespace Onboarding

/-- The slot of the running program and the disk it runs on. -/
structure Vault where
  slot : Option String
  disk : Disk
  deriving Repr

/-- Where a token is stored. -/
inductive TokenStore where
  /-- In the slot only. -/
  | slotOnly
  /-- In the slot and in the file with the path. -/
  | file (path : String)
  deriving DecidableEq, Repr

namespace Vault

/-- The slot with the file under a path. -/
def keeping (vault : Vault) (path : String) : Keeping :=
  ⟨vault.slot, vault.disk.content path⟩

/-- The vault after a change of the slot and the file under a path. -/
def keep (vault : Vault) (path : String) (keeping : Keeping) : Vault :=
  if keeping.file = vault.disk.content path then { vault with slot := keeping.slot }
  else ⟨keeping.slot, vault.disk.setContent path keeping.file⟩

end Vault

namespace TokenStore

/-- Stores a token, in a file with the directories around it. -/
def set (store : TokenStore) (vault : Vault) (token : String) (now : Moment) :
    Except CredentialFailure Unit × Vault :=
  match store with
  | slotOnly => (.ok (), { vault with slot := some token })
  | file path =>
    let vault := { vault with disk := vault.disk.makeAround path }
    let written := vault.disk.writeOutcome path (Credential.write ⟨token, now⟩)
    let (outcome, keeping) := (vault.keeping path).set token now written
    (outcome, vault.keep path keeping)

/-- The token that is stored. -/
def token? (store : TokenStore) (vault : Vault) : Option String :=
  match store with
  | slotOnly => vault.slot
  | file path => (vault.keeping path).token?

/-- Forgets the token. -/
def clear (store : TokenStore) (vault : Vault) : Except CredentialFailure Unit × Vault :=
  match store with
  | slotOnly => (.ok (), { vault with slot := none })
  | file path =>
    let (outcome, keeping) := (vault.keeping path).clear path (vault.disk.removalOutcome path)
    (outcome, vault.keep path keeping)

/-- Puts the token of the file into the slot. -/
def restore (store : TokenStore) (vault : Vault) : Vault :=
  match store with
  | slotOnly => vault
  | file path => vault.keep path (vault.keeping path).restore

/-- The store with a file or without, and the vault with the token of the file restored. -/
def opened (persist : Bool) (path : String) (vault : Vault) : TokenStore × Vault :=
  let store := if persist then file path else slotOnly
  (store, store.restore vault)

end TokenStore

end Onboarding
