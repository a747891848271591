import PrivacyScan.Project.Scan
import PrivacyScan.Proofs.Findings
import PrivacyScan.Proofs.Outcome

/-!
# What the checks of a file report

A check may fail, and where it does not, its findings have its own rules. A weakness carries the proof
that its rule is one of the check, so nothing has to be said about the single checks: all that a check
reports comes from its weaknesses, file by file and place by place.

* **`Spot.finding_hasRule`** — the finding for a weakness has a rule of the check;
* **`extraCheck_reports`** — so every finding of a check has one of them.
-/

namespace PrivacyScan

open Outcome

namespace Check

variable {rules : List String}

theorem Spot.finding_hasRule (file : String) (spot : Spot rules) :
    (spot.finding file).HasRule rules :=
  spot.weakness.known

/-- Where the check gives findings, they have these rules. -/
def Reports (rules : List String) (outcome : Outcome (List Finding)) : Prop :=
  ∀ found, outcome = .ok found → ∀ finding ∈ found, finding.HasRule rules

theorem reports_nil : Reports rules (.ok []) := by
  rintro _ ⟨⟩ finding hmem
  cases hmem

/-- Whatever a check does to find its spots, what it reports are their findings. -/
theorem reports_bind_map {α : Type} {outcome : Outcome α} {spots : α → List (Spot rules)}
    {file : String} :
    Reports rules (outcome >>= fun value => .ok ((spots value).map (·.finding file))) := by
  intro found hfound finding hmem
  obtain ⟨value, _, hspots⟩ := bind_eq_ok.mp hfound
  cases hspots
  obtain ⟨spot, _, rfl⟩ := List.mem_map.mp hmem
  exact spot.finding_hasRule file

end Check

/-- The rules of a check that is added to the analysis. -/
def ExtraCheck.rules : ExtraCheck → List String
  | .injection => Check.Injection.injectionRules
  | .crypto => Check.Crypto.cryptoRules
  | .security => Check.Security.securityRules

/-- What a further check reports has one of its own rules, whichever of the three it is. -/
theorem extraCheck_reports (check : ExtraCheck) (file code : String) :
    Check.Reports check.rules (check.findings file code) := by
  -- code that does not parse has no findings, and all others come from spots
  cases check with
  | injection =>
    show Check.Reports _ (Check.Injection.findings file code)
    unfold Check.Injection.findings
    split
    · exact Check.reports_nil
    · exact Check.reports_bind_map
  | crypto =>
    show Check.Reports _ (Check.Crypto.findings file code)
    unfold Check.Crypto.findings
    split
    · exact Check.reports_nil
    · exact Check.reports_bind_map
  | security =>
    show Check.Reports _ (Check.Security.findings file code)
    unfold Check.Security.findings
    split
    · exact Check.reports_nil
    · exact Check.reports_bind_map

end PrivacyScan
