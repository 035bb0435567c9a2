/-
This file proves when the words of a registration can be relied on. A registration that
succeeds announces that its token is stored under a path. Whether it succeeds depends on
the applicant and on the exchange alone: a file that cannot be written is passed over, and
the announcement is made all the same. So the file holds the token, and a token command
that is run next prints it, exactly when the credential can be written there in full. Where
it cannot, the token is in the file only if the file could not be touched and held just
this token before.
-/

import Onboarding.Proofs.CommandLine.Commands

namespace Onboarding.CommandLine

open Registration

theorem tokenOf_of_broughtToken? {charsets : Text.Charsets} {exchange : Exchange}
    {applicant : Applicant} {token : String}
    (brings : broughtToken? charsets exchange applicant = some token) :
    tokenOf charsets exchange = .ok token := by
  unfold broughtToken? at brings
  split at brings
  · cases found : tokenOf charsets exchange with
    | ok other =>
      rw [found] at brings
      exact congrArg Except.ok (Option.some.inj brings)
    | error failure =>
      rw [found] at brings
      cases brings
  · cases brings

/-- A token command prints a token exactly when it is the one that stands in the file. -/
theorem runCommand_token_iff (host : Host) {settings : Settings} (persist : settings.persist = true)
    (token : String) :
    (runCommand host settings .token).1 = ⟨0, token ++ "\n", ""⟩ ↔
      (host.disk.content (settings.credentialPath host.directory)).token? = some token := by
  rw [runCommand_token host persist]
  cases (host.disk.content (settings.credentialPath host.directory)).token? with
  | none => exact iff_of_false (fun printed => nomatch printed) (fun found => nomatch found)
  | some stored =>
    constructor
    · intro printed
      have words : stored ++ "\n" = token ++ "\n" := congrArg Outcome.out printed
      rw [String.append_left_inj] at words
      rw [words]
    · intro same
      rw [Option.some.inj same]
      rfl

/-- What a registration that succeeds announces is true exactly when the credential can be written
in full under the path, or when nothing can be written there and the file held this very token
before: then the file holds the token that the exchange brought, and a token command that is run
next prints it. -/
theorem stored_iff_takes (host : Host) {settings : Settings}
    (persist : settings.persist = true) (valid : host.now.IsValid) (applicant : Applicant)
    (succeeded : (runCommand host settings (.register applicant)).1.code = 0) :
    let path := settings.credentialPath host.directory
    let registered := runCommand host settings (.register applicant)
    ∃ token, tokenOf host.charsets (host.exchange settings.endpoint) = .ok token ∧
      registered.1 = ⟨0, "Registered. Token stored at " ++ path ++ "\n", ""⟩ ∧
      let text := Credential.write ⟨token, host.now⟩
      let made := host.disk.makeAround path
      let holds := host.disk.Takes path text ∨
        made.writeOutcome path text = .untouched ∧ (made.content path).token? = some token
      ((registered.2.content path).token? = some token ↔ holds) ∧
      ∀ next : Host, next.directory = host.directory → next.disk = registered.2 →
        ((runCommand next settings .token).1 = ⟨0, token ++ "\n", ""⟩ ↔ holds) := by
  intro path registered
  obtain ⟨failed, stored⟩ := runCommand_register host persist applicant
  cases brings : broughtToken? host.charsets (host.exchange settings.endpoint) applicant with
  | none => exact nomatch (failed brings).1.symm.trans succeeded
  | some token =>
    have outcome : registered = _ := stored token brings
    refine ⟨token, tokenOf_of_broughtToken? brings, ?_, ?_⟩
    · rw [outcome]
      rfl
    · intro text made holds
      have inFile : (registered.2.content path).token? = some token ↔ holds := by
        rw [outcome]
        exact TokenStore.token?_set_iff _ valid token
      refine ⟨inFile, fun next directory disk => ?_⟩
      rw [runCommand_token_iff next persist, directory, disk]
      exact inFile

/-- A registration over a file that is no credential, and the token command behind it. -/
theorem stored_over_other_file :
    let path := Settings.default.credentialPath "/home/ada"
    let disk := Disk.empty.addFile path "no credential" 0o644
    let answer := "\x7b\"data\":\x7b\"registerUser\":\x7b\"token\":\"T-1\"\x7d\x7d\x7d"
    let circumstances : Circumstances := ⟨[], none, .plain,
      fun _ => .replied ⟨200, [], .whole (Text.utf8Bytes answer)⟩, fun _ => none,
      ⟨⟨2024, 2, 29⟩, 23, 59, 60, 999⟩⟩
    let host : Host := ⟨circumstances, "/home/ada", disk⟩
    let ada : Applicant := ⟨"Ada", "Lovelace", "ada@b.co", "twelve letters"⟩
    let registered := runCommand host Settings.default (.register ada)
    Settings.default.persist = true ∧ host.now.IsValid ∧ registered.1.code = 0 ∧
      disk.Writable path ∧ (registered.2.content path).token? = some "T-1" ∧
      (runCommand { host with disk := registered.2 } Settings.default .token).1 =
        ⟨0, "T-1" ++ "\n", ""⟩ := by
  intro path disk answer circumstances host ada registered
  have valid : host.now.IsValid := ⟨by decide, by decide, by decide, by decide, by decide⟩
  have succeeded : registered.1.code = 0 := by decide +kernel
  have writable : disk.Writable path := by
    unfold Disk.Writable
    decide +kernel
  have brings : broughtToken? (fun _ => none) (host.exchange Settings.default.endpoint) ada =
      some "T-1" := by decide +kernel
  have run : runCommand host Settings.default (.register ada) = registered := rfl
  obtain ⟨token, found, _, holds, next⟩ :=
    stored_iff_takes host rfl valid ada (by rw [run]; exact succeeded)
  have same : "T-1" = token := Except.ok.inj ((tokenOf_of_broughtToken? brings).symm.trans found)
  subst same
  rw [run] at holds next
  clear_value registered
  have taken := writable.takes (Credential.write ⟨"T-1", host.now⟩)
  have printed := (next { host with disk := registered.2 } rfl rfl).mpr (.inl taken)
  exact ⟨rfl, valid, succeeded, writable, holds.mpr (.inl taken), printed⟩

/-- With a file in the place of the directory, or on a disk that has no room for all of the
credential, a token is announced to be stored; a token command that is run next finds none. -/
theorem announced_without_file :
    let path := "/home/ada/.swallowtail/credentials.json"
    let inTheWay := Disk.empty.addFile "/home/ada/.swallowtail" "in the way" 0o644
    let full : Disk :=
      ⟨[], [(["home", "ada", ".swallowtail", "credentials.json"], .narrow 20)]⟩
    let answer := "\x7b\"data\":\x7b\"registerUser\":\x7b\"token\":\"T-1\"\x7d\x7d\x7d"
    let circumstances : Circumstances := ⟨[], none, .plain,
      fun _ => .replied ⟨200, [], .whole (Text.utf8Bytes answer)⟩, fun _ => none,
      ⟨⟨2024, 2, 29⟩, 23, 59, 60, 999⟩⟩
    let host (disk : Disk) : Host := ⟨circumstances, "/home/ada", disk⟩
    let ada : Applicant := ⟨"Ada", "Lovelace", "ada@b.co", "twelve letters"⟩
    let registered (disk : Disk) := runCommand (host disk) Settings.default (.register ada)
    Settings.default.persist = true ∧
      tokenOf (fun _ => none) (circumstances.exchange Settings.default.endpoint) = .ok "T-1" ∧
      (registered inTheWay).2.content path = .missing ∧
      (registered full).2.content path =
        .file (Text.utf8Bytes "\x7b\n  \"token\": \"T-1\",\n") 0o600 ∧
      ∀ disk ∈ [inTheWay, full],
        (registered disk).1 =
          ⟨0, "Registered. Token stored at /home/ada/.swallowtail/credentials.json\n", ""⟩ ∧
        (runCommand (host (registered disk).2) Settings.default .token).1 =
          ⟨1, "", "Error: no stored access token; run `swallowtail register` first\n"⟩ := by
  intro path inTheWay full answer circumstances host ada registered
  have brings : broughtToken? (fun _ => none) (circumstances.exchange Settings.default.endpoint)
      ada = some "T-1" := by decide +kernel
  refine ⟨rfl, tokenOf_of_broughtToken? brings, by decide +kernel, by decide +kernel, ?_⟩
  refine List.forall_mem_cons.mpr ⟨⟨by decide +kernel, by decide +kernel⟩,
    List.forall_mem_singleton.mpr ⟨by decide +kernel, by decide +kernel⟩⟩

end Onboarding.CommandLine
