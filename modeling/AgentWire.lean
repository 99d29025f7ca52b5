import AgentWire.Main
import AgentWire.Proofs.Alikeness
import AgentWire.Proofs.ConfigRuns
import AgentWire.Proofs.DocumentReferences
import AgentWire.Proofs.LocationPaths
import AgentWire.Proofs.MalformedTexts
import AgentWire.Proofs.PathText
import AgentWire.Proofs.QueryAnswers
import AgentWire.Proofs.RegistryHistories
import AgentWire.Proofs.RenderedDocuments
import AgentWire.Proofs.SchemaStrictness
import AgentWire.Proofs.SelfNamedVariants
import AgentWire.Proofs.SourceHeaders
import AgentWire.Proofs.TextDoubles
import AgentWire.Proofs.WireForms
