import ControlBreak.Diagnostics
import ControlBreak.Execution
import ControlBreak.Expression.Validation
import ControlBreak.Formula.Parser
import ControlBreak.Value.Reading
import ControlBreak.Proofs.Dependency.Affected
import ControlBreak.Proofs.Dependency.Depth
import ControlBreak.Proofs.Execution.Restart
import ControlBreak.Proofs.Execution.Snapshot
import ControlBreak.Proofs.Expression.Arithmetic
import ControlBreak.Proofs.Expression.Paths
import ControlBreak.Proofs.Expression.Places
import ControlBreak.Proofs.Expression.Summary
import ControlBreak.Proofs.Expression.WrittenOut
import ControlBreak.Proofs.Formula.Escapes
import ControlBreak.Proofs.Formula.Rendering
import ControlBreak.Proofs.Formula.RoundTrip
import ControlBreak.Proofs.Groups.Runs
import ControlBreak.Proofs.Groups.Summaries
import ControlBreak.Proofs.Value.Fields
import ControlBreak.Proofs.Variables.Circles
import ControlBreak.Proofs.Variables.Context
import ControlBreak.Proofs.Variables.Extremes
import ControlBreak.Proofs.Variables.Missing
import ControlBreak.Proofs.Variables.ResetPaths
import ControlBreak.Proofs.Variables.Resets
import ControlBreak.Proofs.Variables.Totals
import ControlBreak.Proofs.Variables.Updates
