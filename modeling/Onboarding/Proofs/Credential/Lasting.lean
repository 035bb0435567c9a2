/-
This file proves how long a token lasts in one running program, whatever becomes of its file.
A token that is stored is the one that is found until another is stored or it is forgotten,
even where its file was never written, was written in part, or was changed by somebody else.
A token that is forgotten is gone, if this was not refused. Only while the slot is empty does
the file count at all, and a file that cannot be read counts as none.

What the slot holds is decided by the latest storing or forgetting alone, so a run is summed
up by that one. Whether the changes of the file succeed is given with each use; the uses of a
store on a disk are shown to be such uses.
-/

import Onboarding.Proofs.Credential.Storing

namespace Onboarding

/-! ### The token in a file -/

/-- What is found is a file whose bytes are a text that a credential with the token can be read
from. -/
inductive FileContent.Holds : FileContent → String → Prop
  | file {text : String} {mode : Nat} {credential : Credential} :
      Credential.read? text = some credential →
      Holds (.file (Text.utf8Bytes text) mode) credential.token

theorem FileContent.token?_eq_some_iff {content : FileContent} {token : String} :
    content.token? = some token ↔ content.Holds token := by
  constructor
  · intro found
    cases content with
    | missing => cases found
    | directory => cases found
    | file bytes mode =>
      cases decoded : Text.ofUtf8? bytes with
      | none => simp [token?, credential, decoded] at found
      | some text =>
        cases read : Credential.read? text with
        | none => simp [token?, credential, decoded, read] at found
        | some stored =>
          simp only [token?, credential, decoded, read, Option.some.injEq] at found
          rw [Text.ofUtf8?_eq_some_iff.mp decoded, ← found]
          exact .file read
  · rintro ⟨read⟩
    simp [token?, credential, read]

namespace Keeping

/-! ### Uses of a store -/

/-- What is asked of a store with a file while the program runs, with what becomes of the file. -/
inductive Use where
  /-- A token is stored; the file is as found once the directories around it are made, or not. -/
  | set (token : String) (now : Moment) (found : FileContent) (outcome : WriteOutcome)
  | clear (outcome : RemovalOutcome)
  /-- The token is looked for; the file can be opened, or not. -/
  | look (opened : Bool)
  /-- Somebody else changes what is found under the path. -/
  | change (file : FileContent)
  deriving DecidableEq, Repr

/-- What a store answers. -/
inductive Reply where
  | stored (outcome : Except CredentialFailure Unit)
  | cleared (outcome : Except CredentialFailure Unit)
  | token (found : Option String)
  | nothing

namespace Use

/-- What the use leaves in the slot; none when it leaves the slot alone. -/
def slot? : Use → Option (Option String)
  | set token _ _ _ => some (some token)
  | clear _ => some none
  | look _ | change _ => none

/-- Whether there may be a token after the use where there was none before. -/
def mayBring : Use → Bool
  | set .. | change _ => true
  | clear _ | look _ => false

end Use

/-- What a use answers and leaves. A file that cannot be opened is read like a directory. -/
def use (path : String) (keeping : Keeping) : Use → Reply × Keeping
  | .set token now found outcome =>
    let (answer, next) := { keeping with file := found }.set token now outcome
    (.stored answer, next)
  | .clear outcome =>
    let (answer, next) := keeping.clear path outcome
    (.cleared answer, next)
  | .look opened =>
    let seen := if opened then keeping.file else .directory
    (.token { keeping with file := seen }.token?, keeping)
  | .change file => (.nothing, { keeping with file })

/-- The slot and the file after uses, one after the other. -/
def useAll (path : String) (keeping : Keeping) (uses : List Use) : Keeping :=
  uses.foldl (fun keeping use => (keeping.use path use).2) keeping

/-- The answer to one more use. -/
def replyAfter (path : String) (start : Keeping) (uses : List Use) (use : Use) : Reply :=
  ((start.useAll path uses).use path use).1

variable {path : String} {keeping : Keeping}

/-! ### What a use leaves -/

/-- Forgetting empties the slot; it leaves no file, or is refused and leaves the file as it is. -/
theorem clear_cases (path : String) (keeping : Keeping) (outcome : RemovalOutcome) :
    keeping.clear path outcome = (.ok (), ⟨none, .missing⟩) ∨
      ∃ reason, keeping.clear path outcome =
        (.error (.access path reason), ⟨none, keeping.file⟩) := by
  unfold clear
  split
  · exact .inl rfl
  · exact .inl rfl
  · exact .inr ⟨_, rfl⟩

theorem slot_use (path : String) (keeping : Keeping) (use : Use) :
    (keeping.use path use).2.slot = use.slot?.getD keeping.slot := by
  cases use with
  | set | look | change => rfl
  | clear outcome =>
    show (keeping.clear path outcome).2.slot = none
    rcases keeping.clear_cases path outcome with gone | ⟨reason, refused⟩
    · rw [gone]
    · rw [refused]

/-- The slot holds what the latest storing or forgetting left in it. -/
theorem slot_useAll (path : String) (keeping : Keeping) (uses : List Use) :
    (keeping.useAll path uses).slot = (uses.filterMap Use.slot?).getLastD keeping.slot := by
  induction uses generalizing keeping with
  | nil => rfl
  | cons use rest inductionHypothesis =>
    have later := inductionHypothesis (keeping.use path use).2
    rw [slot_use] at later
    rw [List.filterMap_cons]
    cases left : use.slot? with
    | none => rwa [left] at later
    | some slot =>
      rw [left] at later
      rw [List.getLastD_cons]
      exact later

theorem slot_useAll_of_latest (earlier : List Use) {use : Use} {slot : Option String}
    (leaves : use.slot? = some slot) {later : List Use}
    (others : ∀ use ∈ later, use.slot? = none) :
    (keeping.useAll path (earlier ++ use :: later)).slot = slot := by
  rw [slot_useAll, List.filterMap_append, List.filterMap_cons, leaves,
    List.filterMap_eq_nil_iff.mpr others, List.getLastD_eq_getLast?, List.getLast?_concat,
    Option.getD_some]

/-- Where there is neither a token nor a file, there is none until one may be brought. -/
theorem useAll_of_nothing {uses : List Use} (bringNothing : ∀ use ∈ uses, use.mayBring = false) :
    useAll path ⟨none, .missing⟩ uses = ⟨none, .missing⟩ := by
  induction uses with
  | nil => rfl
  | cons use rest inductionHypothesis =>
    obtain ⟨first, others⟩ := List.forall_mem_cons.mp bringNothing
    cases use with
    | look | clear => exact inductionHypothesis others
    | set | change => cases first

/-! ### What a look finds -/

theorem use_look_of_slot {token : String} (kept : keeping.slot = some token) (opened : Bool) :
    (keeping.use path (.look opened)).1 = .token (some token) := by
  simp [use, token?, kept]

theorem use_look_of_empty (empty : keeping.slot = none) (opened : Bool) :
    (keeping.use path (.look opened)).1 =
      .token (if opened then keeping.file.token? else none) := by
  simp only [use, token?, empty, Option.none_or]
  cases opened <;> rfl

/-- After forgetting that was not refused, there is neither a token nor a file until one may be
brought. -/
theorem useAll_of_cleared {earlier : List Use} {outcome : RemovalOutcome}
    (cleared : keeping.replyAfter path earlier (.clear outcome) = .cleared (.ok ()))
    {later : List Use} (bringNothing : ∀ use ∈ later, use.mayBring = false) :
    keeping.useAll path (earlier ++ .clear outcome :: later) = ⟨none, .missing⟩ := by
  have left : ((keeping.useAll path earlier).use path (.clear outcome)).2 = ⟨none, .missing⟩ := by
    rcases (keeping.useAll path earlier).clear_cases path outcome with gone | ⟨reason, refused⟩
    · exact congrArg Prod.snd gone
    · rw [replyAfter, use, refused] at cleared
      cases cleared
  rw [useAll, List.foldl_append]
  show useAll path ((keeping.useAll path earlier).use path (.clear outcome)).2 later = _
  rw [left, useAll_of_nothing bringNothing]

end Keeping

/-! ### Uses on a disk -/

/-- What is asked of a store while the program runs. -/
inductive TokenStore.Ask where
  | set (token : String) (now : Moment)
  | clear
  | look
  deriving DecidableEq, Repr

/-- What the use asks for; nothing when somebody else changes the file. -/
def Keeping.Use.ask? : Keeping.Use → Option TokenStore.Ask
  | set token now _ _ => some (.set token now)
  | clear _ => some .clear
  | look _ => some .look
  | change _ => none

namespace TokenStore

/-- What a store answers, and the vault that it leaves. -/
def answer (store : TokenStore) (vault : Vault) : Ask → Keeping.Reply × Vault
  | .set token now =>
    let (answer, next) := store.set vault token now
    (.stored answer, next)
  | .clear =>
    let (answer, next) := store.clear vault
    (.cleared answer, next)
  | .look => (.token (store.token? vault), vault)

/-- The vault after what is asked of a store, one after the other. -/
def answerAll (store : TokenStore) (vault : Vault) (asks : List Ask) : Vault :=
  asks.foldl (fun vault ask => (store.answer vault ask).2) vault

variable {path : String}

/-- A file that is where a path leads is not found after it was removed. -/
theorem keeping_keep_missing {vault : Vault} {parts : List String}
    (leads : vault.disk.Leads path parts) (free : vault.disk.node? parts ≠ some .directory)
    (slot : Option String) :
    (vault.keep path ⟨slot, .missing⟩).keeping path = ⟨slot, .missing⟩ := by
  by_cases same : FileContent.missing = vault.disk.content path
  · exact keeping_keep_self vault same
  · cases kept : vault.disk.node? parts with
    | none =>
      rw [Disk.content, Disk.find?, leads.place_of_none kept] at same
      exact absurd rfl same
    | some node =>
      rw [Vault.keep, if_neg same, Vault.keeping, Disk.setContent, leads.place_of_some kept,
        leads.content_remove free]

/-- What is left of a file where the disk lets it be removed, or does not, is found there. -/
theorem keeping_keep_clear (vault : Vault) :
    let left := ((vault.keeping path).clear path (vault.disk.removalOutcome path)).2
    (vault.keep path left).keeping path = left := by
  intro left
  rcases Disk.place_cases vault.disk path with nowhere | ⟨parts, directory⟩ | ⟨parts, leads, free⟩
  · refine keeping_keep_self vault ?_
    simp only [left, Vault.keeping, Disk.content, Disk.find?, nowhere, Keeping.clear]
  · refine keeping_keep_self vault ?_
    simp only [left, Vault.keeping, Disk.content, Disk.find?, directory, Disk.removalOutcome,
      Keeping.clear]
  · rcases (vault.keeping path).clear_cases path (vault.disk.removalOutcome path) with
      gone | ⟨reason, refused⟩
    · rw [show left = ⟨none, .missing⟩ from congrArg Prod.snd gone]
      exact keeping_keep_missing leads free none
    · rw [show left = ⟨none, vault.disk.content path⟩ from congrArg Prod.snd refused]
      exact keeping_keep_self vault rfl

/-- Each answer on a disk is that to a use whose changes of the file come out as on the disk. -/
theorem exists_use (path : String) (vault : Vault) (ask : Ask) :
    ∃ use : Keeping.Use, use.ask? = some ask ∧
      (vault.keeping path).use path use =
        (((file path).answer vault ask).1, ((file path).answer vault ask).2.keeping path) := by
  cases ask with
  | look => exact ⟨.look true, rfl, rfl⟩
  | set token now =>
    let made : Vault := { vault with disk := vault.disk.makeAround path }
    let text := Credential.write ⟨token, now⟩
    refine ⟨.set token now (made.disk.content path) (made.disk.writeOutcome path text), rfl, ?_⟩
    exact Prod.ext rfl (keeping_keep_written made (some token) text).symm
  | clear =>
    refine ⟨.clear (vault.disk.removalOutcome path), rfl, ?_⟩
    exact Prod.ext rfl (keeping_keep_clear vault).symm

/-- What is asked of a store on a disk, one after the other, is a run of such uses. -/
theorem exists_uses (path : String) (vault : Vault) (asks : List Ask) :
    ∃ uses : List Keeping.Use, uses.map Keeping.Use.ask? = asks.map some ∧
      (vault.keeping path).useAll path uses = ((file path).answerAll vault asks).keeping path := by
  induction asks generalizing vault with
  | nil => exact ⟨[], rfl, rfl⟩
  | cons ask rest inductionHypothesis =>
    obtain ⟨use, asked, answered⟩ := exists_use path vault ask
    obtain ⟨uses, askedLater, left⟩ := inductionHypothesis ((file path).answer vault ask).2
    refine ⟨use :: uses, by rw [List.map_cons, List.map_cons, asked, askedLater], ?_⟩
    show ((vault.keeping path).use path use).2.useAll path uses = _
    rw [answered]
    exact left

/-! ### How long a token lasts -/

open Keeping in
/-- In any run of one program, with any file at first: storing a token is never refused, and the
token is found until another use of the slot; after forgetting that was not refused none is found
until one may be brought; and while the slot is empty the token of the file is found, when the file
can be opened and holds one, and none otherwise. What a store on a disk answers is what is answered
to such uses. -/
theorem token_lasts (path : String) (start : Keeping) :
    (∀ uses token now found outcome,
      start.replyAfter path uses (.set token now found outcome) = .stored (.ok ())) ∧
    (∀ earlier token now found outcome later opened, (∀ use ∈ later, use.slot? = none) →
      start.replyAfter path (earlier ++ .set token now found outcome :: later) (.look opened) =
        .token (some token)) ∧
    (∀ earlier outcome later opened,
      start.replyAfter path earlier (.clear outcome) = .cleared (.ok ()) →
      (∀ use ∈ later, use.mayBring = false) →
      start.replyAfter path (earlier ++ .clear outcome :: later) (.look opened) = .token none) ∧
    (∀ uses opened, (start.useAll path uses).slot = none →
      ∃ seen, start.replyAfter path uses (.look opened) = .token seen ∧
        ∀ token, seen = some token ↔
          opened = true ∧ (start.useAll path uses).file.Holds token) ∧
    ∀ (vault : Vault) (asks : List Ask) (ask : Ask), ∃ uses use,
      uses.map Use.ask? = asks.map some ∧ use.ask? = some ask ∧
        ((file path).answer ((file path).answerAll vault asks) ask).1 =
          (vault.keeping path).replyAfter path uses use := by
  refine ⟨fun _ _ _ _ _ => rfl, ?_, ?_, ?_, ?_⟩
  · intro earlier token now found outcome later opened others
    exact use_look_of_slot (slot_useAll_of_latest earlier rfl others) opened
  · intro earlier outcome later opened cleared bringNothing
    rw [replyAfter, useAll_of_cleared cleared bringNothing, use_look_of_empty rfl]
    exact congrArg Reply.token (ite_self none)
  · intro uses opened empty
    refine ⟨_, use_look_of_empty empty opened, fun token => ?_⟩
    rw [← FileContent.token?_eq_some_iff]
    cases opened <;> simp
  · intro vault asks ask
    obtain ⟨uses, asked, left⟩ := exists_uses path vault asks
    obtain ⟨use, askedNext, answered⟩ := exists_use path ((file path).answerAll vault asks) ask
    refine ⟨uses, use, asked, askedNext, ?_⟩
    rw [replyAfter, left, answered]

/-- A file with a token, storing that breaks off and whose file is taken away, and forgetting that
is not refused at first. -/
theorem token_lasts_of_failures :
    let now : Moment := ⟨⟨2024, 2, 29⟩, 23, 59, 60, 999⟩
    let start : Keeping := ⟨none, .file (Text.utf8Bytes (Credential.write ⟨"old", now⟩)) 0o644⟩
    let stored : Keeping.Use := .set "T" now .missing (.brokenOff 7)
    start.replyAfter "/t" [] (.look true) = .token (some "old") ∧
      start.replyAfter "/t" [.look false, stored, .change .missing] (.look true) =
        .token (some "T") ∧
      start.replyAfter "/t" [stored, .clear .removed, .clear (.refused "read-only"), .look true]
        (.look true) = .token none := by
  intro now start stored
  have valid : now.IsValid := ⟨by decide, by decide, by decide, by decide, by decide⟩
  obtain ⟨-, stands, gone, empty, -⟩ := token_lasts "/t" start
  have holds : start.file.Holds "old" := .file (Credential.read?_write valid)
  obtain ⟨seen, found, iff⟩ := empty [] true rfl
  rw [(iff "old").mpr ⟨rfl, holds⟩] at found
  refine ⟨found, stands [.look false] "T" now .missing _ [.change .missing] true (by decide), ?_⟩
  exact gone [stored] .removed [.clear (.refused "read-only"), .look true] true rfl (by decide)

end TokenStore

end Onboarding
