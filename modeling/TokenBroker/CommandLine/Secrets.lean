import TokenBroker.CommandLine.Report

/-!
# Commands for secrets

Secrets that a configuration refers to, written to the keyring and taken out of it again. A secret
is given by its service and key.
-/

namespace TokenBroker.CommandLine

/-- What a fault with the keyring makes of a run: reports of the broker and wrong values are
printed, anything else is a breakdown. -/
def keyringReport : Fault → Report
  | .value message => .failed message
  | fault => .ofFault fault

/-- The same with the suggestion of a report. -/
def keyringReportWithHint (fault : Fault) : Report :=
  let report := keyringReport fault
  match fault with
  | .failure (.credential _ _ _ (some suggestion)) =>
    if suggestion.isEmpty then report
    else { report with errors := report.errors ++ "Suggestion: " ++ suggestion ++ "\n" }
  | _ => report

/-- Keeps a secret. -/
def setSecret (reference value : String) (keyring : Keyring) : Report × Keyring :=
  match SecretPlace.parse reference with
  | .error fault => (keyringReportWithHint fault, keyring)
  | .ok place =>
    match keyring.set place.service place.key value with
    | .error fault => (keyringReportWithHint fault, keyring)
    | .ok keyring =>
      (.lines [.ok "Secret stored successfully", .ok ("Reference it as: " ++ place.reference)],
        keyring)

/-- Forgets a secret. -/
def deleteSecret (reference : String) (keyring : Keyring) : Report × Keyring :=
  match SecretPlace.parse reference with
  | .error fault => (keyringReport fault, keyring)
  | .ok place =>
    match keyring.delete place.service place.key with
    | .error fault => (keyringReport fault, keyring)
    | .ok (found, keyring) =>
      (.said (if found then "Secret deleted successfully" else "Secret not found"), keyring)

end TokenBroker.CommandLine
