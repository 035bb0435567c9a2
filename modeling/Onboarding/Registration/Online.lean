/-
This file holds the services of a submission that goes to the service itself:
requests are sent one after the other, and the token goes into a store.
-/

import Onboarding.Credential.Store
import Onboarding.Registration.Service
import Onboarding.Registration.Submission

namespace Onboarding.Registration

/-- The vault of the running program, and the traffic with the service. -/
structure Online where
  vault : Vault
  /-- What will come of the requests to be sent, one after the other. -/
  exchanges : List Exchange
  /-- The requests sent so far, the first in front. -/
  sent : List Request
  deriving Repr

/-- What comes of a request when nothing is said about it. -/
def unanswered : Exchange := .failed "no answer"

/-- Sends a request. -/
def Online.send (online : Online) (request : Request) : Exchange × Online :=
  (online.exchanges.headD unanswered,
    { online with exchanges := online.exchanges.drop 1, sent := online.sent ++ [request] })

/-- The services of a submission with a store; the moment is that of storing. -/
def onlineServices (charsets : Text.Charsets) (store : TokenStore) (now : Moment) :
    Services Online where
  register applicant online :=
    let (exchange, online) := online.send (request applicant)
    (tokenOf charsets exchange, online)
  keep token online :=
    let (outcome, vault) := store.set online.vault token now
    (outcome, { online with vault })
  token? online := store.token? online.vault

end Onboarding.Registration
