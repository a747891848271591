import PrivacyScan.Report.Html.Finding
import PrivacyScan.Report.Html.Flow
import PrivacyScan.Report.Html.Map
import PrivacyScan.Report.Html.Style
import PrivacyScan.Report.Moment

/-!
Reports as a page for a browser.
-/

namespace PrivacyScan.Report.Html

def headerPart (now : Moment) : String :=
  r#"
        <header>
            <div class="logo">
                <span class="logo-icon">🔒</span>
                <h1>Privalyse</h1>
            </div>
            <p class="subtitle">Privacy & GDPR Compliance Report</p>
            <p class="timestamp">Generated: "# ++ now.written ++ r#"</p>
        </header>
        "#

structure Standing where
  scoreClass : String
  statusClass : String
  status : String
deriving Repr

def standingOf (score : Float) : Standing :=
  if score ≥ 90 then
    { scoreClass := "score-compliant", statusClass := "status-compliant"
      status := "✅ COMPLIANT" }
  else if score ≥ 70 then
    { scoreClass := "score-warning", statusClass := "status-warning"
      status := "⚠️ NEEDS WORK" }
  else
    { scoreClass := "score-critical", statusClass := "status-critical"
      status := "❌ CRITICAL" }

def scorePart (score : Document) (groups : Grouped) : Outcome String := do
  let standing := standingOf (← score.compared ">=")
  let shown := Number.fixedText (← score.formatted) 0
  return r#"
        <div class="score-section">
            <div class="score-display "# ++ standing.scoreClass ++ r#"">
                "# ++ shown ++ r#"<span style="font-size: 60px;">/100</span>
            </div>
            <div class="status-badge "# ++ standing.statusClass ++ r#"">
                "# ++ standing.status ++ r#"
            </div>
            <div class="stats-grid">
                <div class="stat-card">
                    <div class="stat-value" style="color: #dc2626;">"# ++ groups.count .critical ++ r#"</div>
                    <div class="stat-label">Critical</div>
                </div>
                <div class="stat-card">
                    <div class="stat-value" style="color: #ea580c;">"# ++ groups.count .high ++ r#"</div>
                    <div class="stat-label">High</div>
                </div>
                <div class="stat-card">
                    <div class="stat-value" style="color: #ca8a04;">"# ++ groups.count .medium ++ r#"</div>
                    <div class="stat-label">Medium</div>
                </div>
                <div class="stat-card">
                    <div class="stat-value" style="color: #16a34a;">"# ++ groups.count .low ++ r#"</div>
                    <div class="stat-label">Low</div>
                </div>
            </div>
        </div>
        "#

def chartPart : String :=
  r#"
        <div class="chart-section">
            <h2 class="section-title">📊 Findings Distribution</h2>
            <div class="chart-container">
                <canvas id="findingsChart"></canvas>
            </div>
        </div>
        "#

def chartScript (groups : Grouped) : String :=
  r#"
    <script>
        const ctx = document.getElementById('findingsChart');
        new Chart(ctx, {
            type: 'doughnut',
            data: {
                labels: ['🔴 Critical', '🟠 High', '🟡 Medium', '🟢 Low', 'ℹ️ Info'],
                datasets: [{
                    data: ["# ++ groups.count .critical ++ ", " ++ groups.count .high ++ ", " ++ groups.count .medium ++ ", " ++ groups.count .low ++ ", " ++ groups.count .info ++ r#"],
                    backgroundColor: [
                        '"# ++ color .critical ++ r#"',
                        '"# ++ color .high ++ r#"',
                        '"# ++ color .medium ++ r#"',
                        '"# ++ color .low ++ r#"',
                        '"# ++ color .info ++ r#"'
                    ],
                    borderWidth: 0
                }]
            },
            options: {
                responsive: true,
                maintainAspectRatio: true,
                plugins: {
                    legend: {
                        position: 'bottom',
                        labels: {
                            padding: 20,
                            font: {
                                size: 14
                            }
                        }
                    },
                    tooltip: {
                        callbacks: {
                            label: function(context) {
                                return context.label + ': ' + context.parsed + ' findings';
                            }
                        }
                    }
                }
            }
        });
    </script>
        "#

def footerPart (metadata : Document) : Outcome String := do
  let files ← metadata.get "files_scanned" (.int 0)
  let duration ← metadata.get "scan_duration" (.float 0.0)
  let seconds := Number.fixedText (← duration.formatted) 2
  return r#"
        <footer>
            <p><strong>Generated by Privalyse v0.1.0</strong></p>
            <p>Files scanned: "# ++ files.shown ++ " | Scan time: " ++ seconds ++ r#"s</p>
            <p style="margin-top: 15px;">
                <a href="https://github.com/privalyse/privalyse-cli" target="_blank">GitHub</a> •
                <a href="https://github.com/privalyse/privalyse-cli/blob/main/DETECTION_RULES.md" target="_blank">Detection Rules</a>
            </p>
            <div class="disclaimer">
                ⚠️ <strong>Disclaimer:</strong> This is a technical report generated by automated code analysis. 
                It should not be considered as legal advice. Please consult with legal experts for compliance verification.
            </div>
        </footer>
        "#

def page (results : Document) (now : Moment) : Outcome String := do
  let compliance ← results.get "compliance" (.object [])
  let score ← compliance.get "score" (.int 0)
  let listed ← results.get "findings" (.list [])
  let metadata ← results.get "meta" (.object [])
  let findings ← listed.elements
  let groups ← grouped findings
  let scores ← scorePart score groups
  let map ← mapPart results
  let flows ← flowPart findings
  let cards ← findingPart groups
  let footer ← footerPart metadata
  return r#"<!DOCTYPE html>
<html lang="en">
<head>
    <meta charset="UTF-8">
    <meta name="viewport" content="width=device-width, initial-scale=1.0">
    <title>Privacy Scan Report - Privalyse</title>
    <script src="https://cdn.jsdelivr.net/npm/chart.js@4.4.0/dist/chart.umd.min.js"></script>
    <script src="https://cdn.jsdelivr.net/npm/mermaid@10.6.1/dist/mermaid.min.js"></script>
    <script src="https://cdnjs.cloudflare.com/ajax/libs/cytoscape/3.28.1/cytoscape.min.js"></script>
    <script src="https://unpkg.com/dagre@0.8.5/dist/dagre.js"></script>
    <script src="https://cdn.jsdelivr.net/npm/cytoscape-dagre@2.5.0/cytoscape-dagre.min.js"></script>
    "# ++ styles ++ r#"
</head>
<body>
    <div class="container">
        "# ++ headerPart now ++ r#"
        "# ++ scores ++ r#"
        "# ++ map ++ r#"
        "# ++ chartPart ++ r#"
        "# ++ flows ++ r#"
        "# ++ cards ++ r#"
        "# ++ footer ++ r#"
    </div>
    "# ++ chartScript groups ++ r#"
    <script>
        mermaid.initialize({ 
            startOnLoad: true,
            theme: 'base',
            themeVariables: {
                primaryColor: '#e0f2fe',
                primaryTextColor: '#0f172a',
                primaryBorderColor: '#0ea5e9',
                lineColor: '#64748b',
                secondaryColor: '#fef3c7',
                tertiaryColor: '#fee2e2'
            }
        });
    </script>
</body>
</html>"#

end PrivacyScan.Report.Html
