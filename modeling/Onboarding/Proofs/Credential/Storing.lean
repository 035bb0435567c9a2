/-
This file proves what the file of a token store holds after each of its operations.
Whatever stands in the way of writing, what is found afterwards is what writing left
there: it holds a token that was stored when all of it could be written, and otherwise
only if the file could not be touched and held the very same token before. A program
that is started finds in the file what an earlier one left there; the slot of the
earlier one is gone.
-/

import Onboarding.Credential.Store
import Onboarding.Proofs.Credential.Reading
import Onboarding.Proofs.Files.Places

namespace Onboarding

namespace TokenStore

variable {path : String}

/-- A store that is opened has the token of the file in its slot, and the disk is as it was. -/
theorem opened_file (path : String) (disk : Disk) :
    opened true path ⟨none, disk⟩ = (file path, ⟨(disk.content path).token?, disk⟩) := by
  have same : (Vault.keeping ⟨none, disk⟩ path).restore =
      ⟨(disk.content path).token?, disk.content path⟩ := by
    unfold Keeping.restore Vault.keeping
    cases (disk.content path).token? <;> rfl
  simp [opened, restore, same, Vault.keep]

theorem token?_opened (path : String) (disk : Disk) :
    (file path).token? ⟨(disk.content path).token?, disk⟩ = (disk.content path).token? := by
  simp [token?, Vault.keeping, Keeping.token?]

/-! ### What is kept -/

theorem keeping_keep_self (vault : Vault) {keeping : Keeping}
    (same : keeping.file = vault.disk.content path) :
    (vault.keep path keeping).keeping path = keeping := by
  rw [Vault.keep, if_pos same, Vault.keeping, ← same]

/-- A file that can be put where a path leads is found there. -/
theorem keeping_keep_file {vault : Vault} {parts : List String}
    (leads : vault.disk.Leads path parts) (free : vault.disk.node? parts ≠ some .directory)
    (slot : Option String) (bytes : List UInt8) (mode : Nat) :
    (vault.keep path ⟨slot, .file bytes mode⟩).keeping path = ⟨slot, .file bytes mode⟩ := by
  by_cases same : FileContent.file bytes mode = vault.disk.content path
  · exact keeping_keep_self vault same
  · rw [Vault.keep, if_neg same, Vault.keeping, Disk.setContent, leads.putFile_eq free,
      leads.content_put free bytes mode]

theorem written_cases (content : FileContent) (new : String) (outcome : WriteOutcome) :
    content.written new outcome = content ∨
      ∃ bytes mode, content.written new outcome = .file bytes mode := by
  cases outcome with
  | untouched => exact .inl rfl
  | complete | emptied | brokenOff => exact .inr ⟨_, _, rfl⟩

/-- Whatever writing leaves where a path leads is found there. -/
theorem keeping_keep_written (vault : Vault) (slot : Option String) (new : String) :
    let file := (vault.disk.content path).written new (vault.disk.writeOutcome path new)
    (vault.keep path ⟨slot, file⟩).keeping path = ⟨slot, file⟩ := by
  intro file
  rcases Disk.place_cases vault.disk path with nowhere | ⟨parts, directory⟩ | ⟨parts, leads, free⟩
  · refine keeping_keep_self vault ?_
    simp only [file, Disk.writeOutcome, nowhere, FileContent.written]
  · refine keeping_keep_self vault ?_
    simp only [file, Disk.writeOutcome, directory, FileContent.written]
  · rcases written_cases (vault.disk.content path) new (vault.disk.writeOutcome path new) with
      same | ⟨bytes, mode, changed⟩
    · exact keeping_keep_self vault same
    · rw [show file = .file bytes mode from changed]
      exact keeping_keep_file leads free slot bytes mode

/-! ### Storing -/

/-- After a token was stored there is in the file what writing it left there. -/
theorem content_set (vault : Vault) (token : String) (now : Moment) :
    let made := vault.disk.makeAround path
    let text := Credential.write ⟨token, now⟩
    ((file path).set vault token now).2.disk.content path =
      (made.content path).written text (made.writeOutcome path text) :=
  congrArg Keeping.file (@keeping_keep_written path
    { vault with disk := vault.disk.makeAround path } (some token) (Credential.write ⟨token, now⟩))

/-- The file holds a token that was stored exactly when all of it could be written, or when the file
could not be touched and held this token before. -/
theorem token?_set_iff (vault : Vault) {now : Moment} (valid : now.IsValid) (token : String) :
    let made := vault.disk.makeAround path
    let text := Credential.write ⟨token, now⟩
    (((file path).set vault token now).2.disk.content path).token? = some token ↔
      vault.disk.Takes path text ∨
        made.writeOutcome path text = .untouched ∧ (made.content path).token? = some token := by
  intro made text
  rw [content_set]
  exact (made.content path).token?_written_iff token valid fun _ => Disk.lt_of_writeOutcome

/-- Where a file can be written, it can be written again. -/
theorem writable_set (vault : Vault) (writable : vault.disk.Writable path) (token : String)
    (now : Moment) : ((file path).set vault token now).2.disk.Writable path := by
  obtain ⟨parts, leads, free, unhindered⟩ := writable.exists_leads
  have complete := writable.takes (Credential.write ⟨token, now⟩)
  rw [Disk.Takes] at complete
  simp only [set, Vault.keeping, Keeping.set, complete, Vault.keep]
  split
  · -- The file holds just this already and stays as it is.
    exact leads.writable free unhindered
  · rw [FileContent.written, Disk.setContent, leads.putFile_eq free]
    exact leads.writable_put free unhindered _ _

/-! ### Forgetting -/

/-- A token that is forgotten is not in the file any more. -/
theorem content_clear (vault : Vault) (writable : vault.disk.Writable path) :
    ((file path).clear vault).1 = .ok () ∧
      ((file path).clear vault).2.disk.content path = .missing ∧
        ((file path).clear vault).2.disk.Writable path := by
  have unchanged (missing : vault.disk.content path = .missing) :
      (file path).clear vault = (.ok (), { vault with slot := none }) := by
    simp [clear, Vault.keeping, missing, Keeping.clear, Vault.keep]
  rcases writable.place_cases with nowhere | ⟨parts, leads, free, unhindered⟩
  · have missing : vault.disk.content path = .missing := by
      rw [Disk.content, Disk.find?, nowhere]
    rw [unchanged missing]
    exact ⟨rfl, missing, writable⟩
  · cases kept : vault.disk.node? parts with
    | none =>
      have missing : vault.disk.content path = .missing := by
        rw [Disk.content, Disk.find?, leads.place_of_none kept]
      rw [unchanged missing]
      exact ⟨rfl, missing, writable⟩
    | some node =>
      have found := leads.place_of_some kept
      cases node with
      | directory => exact absurd kept free
      | file bytes mode =>
        have cleared : (file path).clear vault =
            (.ok (), ⟨none, vault.disk.remove parts⟩) := by
          simp [clear, Vault.keeping, Disk.content, Disk.find?, found, Keeping.clear,
            Disk.removalOutcome, unhindered, Vault.keep, Disk.setContent]
        rw [cleared]
        exact ⟨rfl, leads.content_remove free, leads.writable_remove free unhindered⟩

end TokenStore

end Onboarding
