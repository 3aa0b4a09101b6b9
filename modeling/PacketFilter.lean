import PacketFilter.Main
import PacketFilter.Proofs.Walk.Calls
import PacketFilter.Proofs.Walk.FirstMatch
import PacketFilter.Proofs.History
import PacketFilter.Proofs.Loading
import PacketFilter.Proofs.RuleFile
import PacketFilter.Proofs.CommandText
import PacketFilter.Proofs.Text.ByteLines
import PacketFilter.Proofs.SourceLoading
import PacketFilter.Proofs.EstablishedReply
import PacketFilter.Proofs.EstablishedOnly
import PacketFilter.Proofs.Samples
import PacketFilter.Proofs.Simulation
import PacketFilter.Proofs.Editing
import PacketFilter.Proofs.UnsetActions
import PacketFilter.Proofs.LeastRecent
import PacketFilter.Proofs.FlowToken
import PacketFilter.Proofs.Walk.Agreement
import PacketFilter.Proofs.Walk.Locality
import PacketFilter.Proofs.Walk.Thinning
import PacketFilter.Proofs.PacketOrder
import PacketFilter.Proofs.FirstVerb
import PacketFilter.Proofs.CommandGrammar
import PacketFilter.Proofs.RuleFaults
import PacketFilter.Proofs.Layout
import PacketFilter.Proofs.FlagOrder
import PacketFilter.Proofs.Undoing
import PacketFilter.Proofs.CommandOrder
import PacketFilter.Proofs.LoadingInParts
import PacketFilter.Proofs.LoadedTables
import PacketFilter.Proofs.DistinctTexts
import PacketFilter.Proofs.Monitoring
import PacketFilter.Proofs.PacketForms
