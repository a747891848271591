/-!
The looks of the page.
-/

namespace PrivacyScan.Report.Html

def styles : String :=
  r#"
    <style>
        * {
            margin: 0;
            padding: 0;
            box-sizing: border-box;
        }
        
        body {
            font-family: -apple-system, BlinkMacSystemFont, 'Segoe UI', Roboto, 'Helvetica Neue', Arial, sans-serif;
            line-height: 1.6;
            color: #1f2937;
            background: linear-gradient(135deg, #667eea 0%, #764ba2 100%);
            padding: 20px;
        }
        
        .container {
            max-width: 1200px;
            margin: 0 auto;
            background: white;
            border-radius: 16px;
            box-shadow: 0 20px 60px rgba(0, 0, 0, 0.3);
            overflow: hidden;
        }
        
        header {
            background: linear-gradient(135deg, #667eea 0%, #764ba2 100%);
            color: white;
            padding: 40px;
            text-align: center;
        }
        
        .logo {
            display: flex;
            align-items: center;
            justify-content: center;
            gap: 12px;
            margin-bottom: 10px;
        }
        
        .logo-icon {
            font-size: 48px;
        }
        
        h1 {
            font-size: 42px;
            font-weight: 700;
        }
        
        .subtitle {
            font-size: 18px;
            opacity: 0.9;
            margin-bottom: 8px;
        }
        
        .timestamp {
            font-size: 14px;
            opacity: 0.8;
        }
        
        .score-section {
            padding: 60px 40px;
            text-align: center;
            background: linear-gradient(to bottom, #f9fafb, white);
        }
        
        .score-display {
            font-size: 120px;
            font-weight: 800;
            line-height: 1;
            margin-bottom: 20px;
        }
        
        .score-critical { color: #dc2626; }
        .score-warning { color: #ea580c; }
        .score-compliant { color: #16a34a; }
        
        .status-badge {
            display: inline-block;
            padding: 12px 24px;
            border-radius: 9999px;
            font-size: 18px;
            font-weight: 600;
            margin-bottom: 30px;
        }
        
        .status-critical { 
            background: #fee2e2; 
            color: #dc2626; 
        }
        
        .status-warning { 
            background: #fed7aa; 
            color: #ea580c; 
        }
        
        .status-compliant { 
            background: #dcfce7; 
            color: #16a34a; 
        }
        
        .stats-grid {
            display: grid;
            grid-template-columns: repeat(auto-fit, minmax(150px, 1fr));
            gap: 20px;
            margin-top: 40px;
        }
        
        .stat-card {
            padding: 20px;
            background: white;
            border-radius: 12px;
            box-shadow: 0 2px 8px rgba(0, 0, 0, 0.1);
        }
        
        .stat-value {
            font-size: 36px;
            font-weight: 700;
            margin-bottom: 8px;
        }
        
        .stat-label {
            font-size: 14px;
            color: #6b7280;
            text-transform: uppercase;
            letter-spacing: 0.5px;
        }
        
        .chart-section {
            padding: 40px;
            background: white;
        }
        
        .chart-container {
            max-width: 400px;
            margin: 0 auto;
        }
        
        .findings-section {
            padding: 40px;
        }
        
        .section-title {
            font-size: 28px;
            font-weight: 700;
            margin-bottom: 30px;
            padding-bottom: 15px;
            border-bottom: 3px solid #e5e7eb;
        }
        
        .severity-group {
            margin-bottom: 40px;
        }
        
        .severity-header {
            display: flex;
            align-items: center;
            gap: 12px;
            font-size: 24px;
            font-weight: 600;
            margin-bottom: 20px;
        }
        
        .finding-card {
            background: #f9fafb;
            border-left: 4px solid;
            border-radius: 8px;
            padding: 24px;
            margin-bottom: 16px;
        }
        
        .finding-card.critical { border-color: #dc2626; }
        .finding-card.high { border-color: #ea580c; }
        .finding-card.medium { border-color: #ca8a04; }
        .finding-card.low { border-color: #16a34a; }
        .finding-card.info { border-color: #0284c7; }
        
        .finding-title {
            font-size: 18px;
            font-weight: 600;
            margin-bottom: 12px;
            color: #111827;
        }
        
        .finding-meta {
            display: flex;
            gap: 20px;
            flex-wrap: wrap;
            margin-bottom: 12px;
            font-size: 14px;
            color: #6b7280;
        }
        
        .finding-code {
            background: #1f2937;
            color: #f3f4f6;
            padding: 16px;
            border-radius: 6px;
            overflow-x: auto;
            font-family: 'Monaco', 'Courier New', monospace;
            font-size: 14px;
            margin: 12px 0;
        }
        
        .finding-gdpr {
            background: #eff6ff;
            border: 1px solid #bfdbfe;
            padding: 12px;
            border-radius: 6px;
            margin: 12px 0;
            font-size: 14px;
        }
        
        .finding-gdpr strong {
            color: #1e40af;
        }
        
        footer {
            background: #f9fafb;
            padding: 30px 40px;
            text-align: center;
            color: #6b7280;
            font-size: 14px;
        }
        
        footer a {
            color: #667eea;
            text-decoration: none;
        }
        
        footer a:hover {
            text-decoration: underline;
        }
        
        .disclaimer {
            margin-top: 20px;
            padding: 15px;
            background: #fef3c7;
            border: 1px solid #fde047;
            border-radius: 6px;
            font-size: 13px;
        }
        
        .flows-grid {
            display: grid;
            gap: 20px;
            margin-bottom: 40px;
        }
        
        .flow-visualization {
            background: #ffffff;
            padding: 20px;
            border-radius: 8px;
            margin: 15px 0;
            border: 1px solid #e5e7eb;
            overflow-x: auto;
        }
        
        @media print {
            body {
                background: white;
                padding: 0;
            }
            
            .container {
                box-shadow: none;
            }
            
            .finding-card {
                page-break-inside: avoid;
            }
        }
    </style>
        "#

end PrivacyScan.Report.Html
