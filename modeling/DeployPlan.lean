import DeployPlan.Encoding.Config
import DeployPlan.FileTree.Access
import DeployPlan.Main
import DeployPlan.Proofs.Recording
import DeployPlan.Proofs.Resolver.FirstAnswer
import DeployPlan.Proofs.Generation.Calls
import DeployPlan.Proofs.Generation.CallLaw
import DeployPlan.Proofs.Generation.Objects
import DeployPlan.Proofs.Resolver.StreamBase
import DeployPlan.Proofs.Resolver.Containment
import DeployPlan.Proofs.Generation.Bases
import DeployPlan.Proofs.ImageName.RoundTrip
import DeployPlan.Proofs.Registry.Requests
import DeployPlan.Proofs.Registry.Handshake
import DeployPlan.Proofs.Generation.RuntimeSettings
import DeployPlan.Proofs.DnsName.Form
import DeployPlan.Proofs.Generation.Names
import DeployPlan.Proofs.Resolver.Nesting
import DeployPlan.Proofs.Url.HostText
import DeployPlan.Proofs.Resolver.PullSpec
import DeployPlan.Proofs.Url.PlainName
import DeployPlan.Proofs.Resolver.Pinned
import DeployPlan.Proofs.Encoding.Settings
import DeployPlan.Proofs.Resolver.SameSettings
import DeployPlan.Proofs.Config.Values
import DeployPlan.Proofs.Source.Directory
import DeployPlan.Proofs.Encoding.ObjectList
import DeployPlan.Proofs.CommandLine.AllOrNothing
import DeployPlan.Proofs.BuildFile.Stages
import DeployPlan.Proofs.BuildFile.Layout
import DeployPlan.Proofs.Object.Coverage
import DeployPlan.Proofs.Resolver.Projects
import DeployPlan.Proofs.Resolver.Spellings
import DeployPlan.Proofs.Path.Way
import DeployPlan.Proofs.FileTree.Dots
import DeployPlan.Proofs.Generation.Context
import DeployPlan.Proofs.Generation.Here
import DeployPlan.Proofs.Config.Variables
import DeployPlan.Proofs.Generation.Environment
import DeployPlan.Proofs.Detection.Builders
import DeployPlan.Proofs.Detection.Order
import DeployPlan.Proofs.Object.Settled
import DeployPlan.Proofs.Pipeline.Consistency
import DeployPlan.Proofs.Source.Name
import DeployPlan.Proofs.Source.Address
import DeployPlan.Proofs.Config.Arguments
import DeployPlan.Proofs.Config.Meaning
import DeployPlan.Proofs.DnsName.Grammar
import DeployPlan.Proofs.ExposedPort.Grammar
import DeployPlan.Proofs.Registry.Challenges
import DeployPlan.Proofs.Source.Fresh
