/-!
Advice on what to do first, by the score and the number of grave findings.
-/

namespace PrivacyScan.Compliance

def advice (score : Float) (critical high : Int) : String :=
  if score ≥ 90 then "✅ Excellent! Minor improvements possible."
  else if score ≥ 75 then
    if high > 0 then
      "🟢 Good standing. Address " ++ toString high ++ " high-priority item(s) to reach 90+."
    else "🟢 Good compliance. Review medium-priority items."
  else if score ≥ 60 then
    if critical > 0 then
      "🟡 Needs attention. Fix " ++ toString critical ++ " critical issue(s) first."
    else "🟡 Moderate risk. Address " ++ toString high ++ " high-priority findings."
  else if score ≥ 40 then
    let items := (if critical > 0 then [toString critical ++ " critical"] else []) ++
      (if high > 0 then [toString high ++ " high"] else [])
    "🔴 Critical: Immediate action required on " ++ String.intercalate " + " items ++
      " priority items."
  else
    "❌ Severe risk: " ++ toString (critical + high) ++
      " urgent items require immediate attention. Start with " ++ toString (min 3 critical) ++
      " critical findings."

end PrivacyScan.Compliance
