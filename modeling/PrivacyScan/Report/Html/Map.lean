import PrivacyScan.Report.SystemMap

/-!
The part of the page that draws the map of the system.
-/

namespace PrivacyScan.Report.Html

def mapSection (elements : Document) : String :=
  r#"
        <div class="section-header">
            <h2>🗺️ System Privacy Map</h2>
            <p>Vertical data flow analysis: Input → Processing → Sinks. <span style="color: #ef4444; font-weight: bold;">● Red dots</span> indicate critical data paths.</p>
        </div>
        <div id="cy" style="width: 100%; height: 800px; border: 1px solid #e5e7eb; border-radius: 8px; background: #f8fafc;"></div>
        
        <script>
            document.addEventListener('DOMContentLoaded', function() {
                var cy = cytoscape({
                    container: document.getElementById('cy'),
                    elements: "# ++ elements.compact ++ r#",
                    style: [
                        {
                            selector: 'node',
                            style: {
                                'label': 'data(label)',
                                'text-valign': 'center',
                                'text-halign': 'center',
                                'font-size': '12px',
                                'font-weight': 'bold',
                                'color': '#1e293b',
                                'border-width': 2,
                                'border-color': '#94a3b8',
                                'background-color': '#fff'
                            }
                        },
                        {
                            selector: 'node[category="group"]',
                            style: {
                                'text-valign': 'top',
                                'text-halign': 'center',
                                'background-color': '#f8fafc',
                                'background-opacity': 0.5,
                                'border-width': 2,
                                'border-style': 'dashed',
                                'border-color': '#cbd5e1',
                                'font-size': '16px',
                                'font-weight': 'bold',
                                'color': '#475569',
                                'padding': 40
                            }
                        },
                        {
                            selector: 'node[type="component"]',
                            style: {
                                'shape': 'round-rectangle',
                                'width': 'label',
                                'height': 40,
                                'padding': 15
                            }
                        },
                        {
                            selector: 'node[category="input"]',
                            style: { 'border-color': '#3b82f6', 'background-color': '#eff6ff' }
                        },
                        {
                            selector: 'node[category="processing"]',
                            style: { 'border-color': '#a855f7', 'background-color': '#faf5ff' }
                        },
                        {
                            selector: 'node[category="sink"]',
                            style: {
                                'shape': 'database',
                                'background-color': '#fee2e2',
                                'border-color': '#ef4444',
                                'width': 60,
                                'height': 60
                            }
                        },
                        {
                            selector: 'node[category="external"]',
                            style: {
                                'shape': 'hexagon',
                                'background-color': '#fef3c7',
                                'border-color': '#f59e0b',
                                'width': 60,
                                'height': 60
                            }
                        },
                        {
                            selector: 'node.critical',
                            style: {
                                'border-width': 4,
                                'border-color': '#dc2626',
                                'background-color': '#fee2e2'
                            }
                        },
                        {
                            selector: 'edge',
                            style: {
                                'width': 2,
                                'line-color': '#cbd5e1',
                                'target-arrow-color': '#cbd5e1',
                                'target-arrow-shape': 'triangle',
                                'curve-style': 'taxi',
                                'taxi-direction': 'auto',
                                'taxi-turn': 20,
                                'taxi-turn-min-distance': 5,
                                'arrow-scale': 1.2
                            }
                        },
                        {
                            selector: 'edge.critical',
                            style: {
                                'width': 4,
                                'line-color': '#ef4444',
                                'target-arrow-color': '#ef4444',
                                'line-style': 'solid',
                                'z-index': 999
                            }
                        },
                        {
                            selector: 'edge.dashed',
                            style: {
                                'line-style': 'dashed',
                                'line-dash-pattern': [6, 3],
                                'opacity': 0.7
                            }
                        }
                    ],
                    layout: {
                        name: 'dagre',
                        rankDir: 'LR',
                        nodeSep: 80,
                        rankSep: 250,
                        ranker: 'network-simplex',
                        padding: 50,
                        align: 'UL'
                    }
                });
                
                // Add red dots (badges) to critical nodes manually if needed, 
                // but border-width: 4 and red color is usually enough.
                // We can also use background images or specific shapes.
            });
        </script>
        "#

def mapPart (results : Document) : Outcome String := do
  match ← SystemMap.drawing? results with
  | none => return ""
  | some elements => return mapSection elements

end PrivacyScan.Report.Html
