import FlowTemplate.Main
import FlowTemplate.Proofs.Command.Lint
import FlowTemplate.Proofs.Compile.ExactVersion
import FlowTemplate.Proofs.Compile.Failure
import FlowTemplate.Proofs.Compile.Literal
import FlowTemplate.Proofs.Compile.Overlay
import FlowTemplate.Proofs.Compile.Spelling
import FlowTemplate.Proofs.Definition.Graph
import FlowTemplate.Proofs.Definition.Leak
import FlowTemplate.Proofs.Definition.Mention
import FlowTemplate.Proofs.Definition.Sites
import FlowTemplate.Proofs.Lint.Checked
import FlowTemplate.Proofs.Lint.Fit
import FlowTemplate.Proofs.Lint.Intrinsic
import FlowTemplate.Proofs.Lint.Missing
import FlowTemplate.Proofs.Lint.Printed
import FlowTemplate.Proofs.Lint.Reference
import FlowTemplate.Proofs.Lint.Verdict
import FlowTemplate.Proofs.Machine.LogicalId
import FlowTemplate.Proofs.Merge.Laws
import FlowTemplate.Proofs.Placeholder.Capacity
import FlowTemplate.Proofs.Placeholder.Positional
import FlowTemplate.Proofs.Placeholder.Random
import FlowTemplate.Proofs.Schema.History
import FlowTemplate.Proofs.Schema.Order
import FlowTemplate.Proofs.Template.Edit
import FlowTemplate.Proofs.Yaml.ShortForm
import FlowTemplate.Schema.Cache
