/-
This file proves what a token command prints after any commands that were run before
it, each in a program of its own: the token of the latest registration that succeeded,
unless a logout came after it; before any of these, the token that the file held at
first. What the programs share is the file alone.

Each command is described once by what it makes of the token in the file. A
registration that fails leaves the disk as it is; one that succeeds leaves the token
that the service gave, whatever its characters; a logout leaves no file. The rest is an
induction on the commands.
-/

import Onboarding.CommandLine.Program
import Onboarding.Proofs.Credential.Storing
import Onboarding.Proofs.Registration.Applicants

namespace Onboarding.CommandLine

open Registration

/-! ### Each command -/

/-- The token that a registration brings: that of the exchange, when the applicant keeps the rules
of the form. -/
def broughtToken? (charsets : Text.Charsets) (exchange : Exchange) (applicant : Applicant) :
    Option String :=
  if (schema.faults applicant.toEntries).isEmpty then (tokenOf charsets exchange).toOption else none

section

variable (host : Host) {settings : Settings}

theorem runCommand_token (persist : settings.persist = true) :
    runCommand host settings .token =
      (printToken (host.disk.content (settings.credentialPath host.directory)).token?,
        host.disk) := by
  rw [runCommand, persist, TokenStore.opened_file]
  dsimp only
  rw [TokenStore.token?_opened]

theorem runCommand_logout (persist : settings.persist = true)
    (writable : host.disk.Writable (settings.credentialPath host.directory)) :
    (runCommand host settings .logout).1 = .done "Signed out\n" ∧
      (runCommand host settings .logout).2.content (settings.credentialPath host.directory) =
        .missing ∧
      (runCommand host settings .logout).2.Writable (settings.credentialPath host.directory) := by
  rw [runCommand, persist, TokenStore.opened_file]
  obtain ⟨forgotten, left⟩ := TokenStore.content_clear
    ⟨(host.disk.content (settings.credentialPath host.directory)).token?, host.disk⟩ writable
  dsimp only
  rw [forgotten]
  exact ⟨rfl, left⟩

theorem submit_online (charsets : Text.Charsets) (store : TokenStore) (now : Moment) (vault : Vault)
    (exchange : Exchange) (applicant : Applicant) :
    (onlineServices charsets store now).submit applicant.toEntries ⟨vault, [exchange], []⟩ =
      match tokenOf charsets exchange with
      | .ok token => (.ok token, ⟨(store.set vault token now).2, [], [request applicant]⟩)
      | .error failure => (.error (.registration failure), ⟨vault, [], [request applicant]⟩) := by
  rw [Services.submit, Applicant.ofEntries_toEntries]
  simp only [Services.registerAndKeep, onlineServices, Online.send, List.headD_cons]
  cases tokenOf charsets exchange <;> cases store <;> rfl

/-- A registration that brings no token fails and leaves the disk as it is; one that brings a token
succeeds and stores it. -/
theorem runCommand_register (persist : settings.persist = true) (applicant : Applicant) :
    (broughtToken? host.charsets (host.exchange settings.endpoint) applicant = none →
      (runCommand host settings (.register applicant)).1.code = 1 ∧
        (runCommand host settings (.register applicant)).2 = host.disk) ∧
    ∀ token, broughtToken? host.charsets (host.exchange settings.endpoint) applicant = some token →
      runCommand host settings (.register applicant) =
        (.done (registeredText true (settings.credentialPath host.directory)),
          ((TokenStore.file (settings.credentialPath host.directory)).set
            ⟨(host.disk.content (settings.credentialPath host.directory)).token?, host.disk⟩ token
            host.now).2.disk) := by
  rw [runCommand, persist, TokenStore.opened_file]
  unfold broughtToken? register
  dsimp only
  cases (schema.faults applicant.toEntries).isEmpty with
  | false => exact ⟨fun _ => ⟨rfl, rfl⟩, fun _ brings => nomatch brings⟩
  | true =>
    rw [submit_online]
    cases tokenOf host.charsets (host.exchange settings.endpoint) with
    | error failure => exact ⟨fun _ => ⟨rfl, rfl⟩, fun _ brings => nomatch brings⟩
    | ok found =>
      refine ⟨fun brings => (nomatch brings), fun token brings => ?_⟩
      rw [← show found = token from Option.some.inj brings]
      rfl

end

/-! ### One command after the other -/

/-- A program that is run for a command, with what it finds beside the disk. -/
structure Launch extends Circumstances where
  command : Command

namespace Launch

/-- Runs the command in a directory on a disk. -/
def run (launch : Launch) (settings : Settings) (directory : String) (disk : Disk) :
    Outcome × Disk :=
  runCommand ⟨launch.toCircumstances, directory, disk⟩ settings launch.command

/-- The token that stands after the command, when another one or none stood before it. -/
def standing (settings : Settings) (before : Option String) (launch : Launch) : Option String :=
  match launch.command with
  | .register applicant =>
    (broughtToken? launch.charsets (launch.exchange settings.endpoint) applicant).or before
  | .logout => none
  | .token | .config => before

end Launch

/-- The disk after programs that are run one after the other. -/
def leftBy (launches : List Launch) (settings : Settings) (directory : String) (disk : Disk) :
    Disk :=
  launches.foldl (fun disk launch => (launch.run settings directory disk).2) disk

/-- The token that stands after programs that are run one after the other. -/
def standingAfter (launches : List Launch) (settings : Settings) (before : Option String) :
    Option String :=
  launches.foldl (Launch.standing settings) before

/-- The file under a path can be written, and the token is the one that it holds. -/
structure Stands (path : String) (disk : Disk) (token : Option String) : Prop where
  writable : disk.Writable path
  holds : (disk.content path).token? = token

variable {settings : Settings} {directory : String} {disk : Disk} {token : Option String}

theorem Stands.set {path : String} (stands : Stands path disk token) (slot : Option String)
    {now : Moment} (valid : now.IsValid) (brought : String) :
    Stands path ((TokenStore.file path).set ⟨slot, disk⟩ brought now).2.disk (some brought) where
  writable := TokenStore.writable_set ⟨slot, disk⟩ stands.writable brought now
  holds := (TokenStore.token?_set_iff ⟨slot, disk⟩ valid brought).mpr
    (.inl (stands.writable.takes (Credential.write ⟨brought, now⟩)))

theorem Stands.run (persist : settings.persist = true) {launch : Launch}
    (valid : launch.now.IsValid) (stands : Stands (settings.credentialPath directory) disk token) :
    Stands (settings.credentialPath directory) (launch.run settings directory disk).2
      (launch.standing settings token) := by
  obtain ⟨circumstances, command⟩ := launch
  rw [Launch.run]
  let host : Host := ⟨circumstances, directory, disk⟩
  cases command with
  | register applicant =>
    show Stands _ _ ((broughtToken? host.charsets (host.exchange settings.endpoint) applicant).or
      token)
    obtain ⟨failed, succeeded⟩ := runCommand_register host persist applicant
    cases brings : broughtToken? host.charsets (host.exchange settings.endpoint) applicant with
    | none =>
      -- Where a registration fails, the file is not even written.
      rw [(failed brings).2]
      exact stands
    | some brought =>
      rw [succeeded brought brings]
      exact stands.set _ valid brought
  | token =>
    rw [runCommand_token host persist]
    exact stands
  | logout =>
    obtain ⟨_, missing, writable⟩ := runCommand_logout host persist stands.writable
    exact ⟨writable, by rw [missing]; rfl⟩
  | config => exact stands

theorem Stands.leftBy (persist : settings.persist = true) {launches : List Launch}
    (valid : ∀ launch ∈ launches, launch.now.IsValid)
    (stands : Stands (settings.credentialPath directory) disk token) :
    Stands (settings.credentialPath directory) (leftBy launches settings directory disk)
      (standingAfter launches settings token) := by
  induction launches generalizing disk token with
  | nil => exact stands
  | cons launch launches inductionHypothesis =>
    exact inductionHypothesis (fun later member => valid later (List.mem_cons_of_mem _ member))
      (stands.run persist (valid launch List.mem_cons_self))

/-- After any commands, a token command prints the token that stands, and fails when there is none;
a registration succeeds exactly when it brings a token, and a logout always. -/
theorem outcome_after (persist : settings.persist = true)
    (writable : disk.Writable (settings.credentialPath directory)) (launches : List Launch)
    (valid : ∀ launch ∈ launches, launch.now.IsValid) (last : Launch) :
    let standing := standingAfter launches settings
      (disk.content (settings.credentialPath directory)).token?
    let outcome := (last.run settings directory (leftBy launches settings directory disk)).1
    (last.command = .token →
      (∀ token, standing = some token → outcome = ⟨0, token ++ "\n", ""⟩) ∧
        (standing = none → outcome.code = 1 ∧ outcome.out = "")) ∧
    (∀ applicant, last.command = .register applicant →
      (outcome.code = 0 ↔
        ∃ token, broughtToken? last.charsets (last.exchange settings.endpoint) applicant =
          some token)) ∧
    (last.command = .logout → outcome = ⟨0, "Signed out\n", ""⟩) := by
  intro standing outcome
  have stands : Stands (settings.credentialPath directory)
      (leftBy launches settings directory disk) standing :=
    Stands.leftBy persist valid ⟨writable, rfl⟩
  obtain ⟨circumstances, command⟩ := last
  let host : Host := ⟨circumstances, directory, leftBy launches settings directory disk⟩
  have given : outcome = (runCommand host settings command).1 := rfl
  refine ⟨fun asked => ?_, fun applicant asked => ?_, fun asked => ?_⟩ <;> cases asked <;>
    rw [given]
  · rw [runCommand_token host persist]
    show (∀ token, standing = some token → printToken _ = _) ∧
      (standing = none → (printToken _).code = 1 ∧ (printToken _).out = "")
    rw [stands.holds]
    constructor
    · intro token found
      rw [found]
      rfl
    · intro none
      rw [none]
      exact ⟨rfl, rfl⟩
  · show _ ↔ ∃ token,
      broughtToken? host.charsets (host.exchange settings.endpoint) applicant = some token
    obtain ⟨failed, succeeded⟩ := runCommand_register host persist applicant
    cases brings : broughtToken? host.charsets (host.exchange settings.endpoint) applicant with
    | none => simp [(failed brings).1]
    | some token => simp [succeeded token brings, Outcome.done]
  · exact (runCommand_logout host persist stands.writable).1

/-- A file that is no credential, a registration with a quote in the token, and one without a
reply. -/
theorem outcome_after_registrations :
    let path := Settings.default.credentialPath "/home/ada"
    let disk := Disk.empty.addFile path "no credential" 0o644
    let now : Moment := ⟨⟨2024, 2, 29⟩, 23, 59, 60, 999⟩
    let answer := "\x7b\"data\":\x7b\"registerUser\":\x7b\"token\":\"T\\\"\"\x7d\x7d\x7d"
    let circumstances (exchange : Exchange) : Circumstances :=
      ⟨[], none, .plain, fun _ => exchange, fun _ => none, now⟩
    let register (exchange : Exchange) : Launch :=
      ⟨circumstances exchange, .register ⟨"Ada", "Lovelace", "ada@b.co", "twelve letters"⟩⟩
    let launches :=
      [register (.replied ⟨200, [], .whole (Text.utf8Bytes answer)⟩), register (.failed "no reply")]
    let last : Launch := ⟨circumstances (.failed "no reply"), .token⟩
    Settings.default.persist = true ∧ disk.Writable path ∧
      (∀ launch ∈ launches, launch.now.IsValid) ∧
      (last.run Settings.default "/home/ada"
        (leftBy launches Settings.default "/home/ada" disk)).1 = ⟨0, "T\"\n", ""⟩ := by
  intro path disk now answer circumstances register launches last
  have writable : disk.Writable path := by
    unfold Disk.Writable
    decide +kernel
  have valid : ∀ launch ∈ launches, launch.now.IsValid := by
    have each : now.IsValid := ⟨by decide, by decide, by decide, by decide, by decide⟩
    simp [launches, register, circumstances, each]
  have standing : standingAfter launches Settings.default (disk.content path).token? =
      some "T\"" := by decide +kernel
  have after := outcome_after rfl writable launches valid last
  exact ⟨rfl, writable, valid, (after.1 rfl).1 _ standing⟩

end Onboarding.CommandLine
