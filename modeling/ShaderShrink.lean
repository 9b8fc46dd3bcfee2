import ShaderShrink.Text.Word
import ShaderShrink.Number.Decimal
import ShaderShrink.Json.Reader
import ShaderShrink.Json.Writer
import ShaderShrink.Digest.Blake3
import ShaderShrink.Random.Twister
import ShaderShrink.Shader.Storage
import ShaderShrink.Opportunity.Search
import ShaderShrink.Opportunity.Selection
import ShaderShrink.Files.World
import ShaderShrink.Settings.Basic
import ShaderShrink.Settings.Usage
import ShaderShrink.Reduction.Record
import ShaderShrink.Reduction.Preparation
import ShaderShrink.Dispatch.Tools
import ShaderShrink.Image.Comparison
import ShaderShrink.Pattern.ErrorString
import ShaderShrink.Reduction.Run
import ShaderShrink.Image.PngWriter
import ShaderShrink.CommandLine.Command
import ShaderShrink.Main
import ShaderShrink.Fault
import ShaderShrink.Proofs.Image.Comparison
import ShaderShrink.Proofs.Judge.Corpus
import ShaderShrink.Proofs.Judge.ErrorString
import ShaderShrink.Proofs.Opportunity.Allocation
import ShaderShrink.Proofs.Opportunity.BareLine
import ShaderShrink.Proofs.Opportunity.Block
import ShaderShrink.Proofs.Opportunity.Braces
import ShaderShrink.Proofs.Opportunity.Comment
import ShaderShrink.Proofs.Opportunity.Declared
import ShaderShrink.Proofs.Opportunity.Directive
import ShaderShrink.Proofs.Opportunity.Enclosure
import ShaderShrink.Proofs.Opportunity.Protected
import ShaderShrink.Proofs.Opportunity.Renaming
import ShaderShrink.Proofs.Opportunity.Splice
import ShaderShrink.Proofs.Opportunity.Writes
import ShaderShrink.Proofs.Reduction.Account
import ShaderShrink.Proofs.Reduction.Budget
import ShaderShrink.Proofs.Reduction.Continuation
import ShaderShrink.Proofs.Reduction.Ending
import ShaderShrink.Proofs.Reduction.Exhaustion
import ShaderShrink.Proofs.Reduction.Listing
import ShaderShrink.Proofs.Reduction.Minimality
import ShaderShrink.Proofs.Reduction.Refusal
import ShaderShrink.Proofs.Reduction.Spelling
import ShaderShrink.Proofs.Reduction.Unanswered
import ShaderShrink.Proofs.Reduction.Upshot
