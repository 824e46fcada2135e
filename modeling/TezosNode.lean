import TezosNode.Client.Probe
import TezosNode.Client.Service
import TezosNode.Client.Session
import TezosNode.Proofs.Body.Bare
import TezosNode.Proofs.Body.Cuts
import TezosNode.Proofs.Body.Finality
import TezosNode.Proofs.Body.Promptness
import TezosNode.Proofs.Body.Remains
import TezosNode.Proofs.Body.Scanning
import TezosNode.Proofs.Client.Cancellation
import TezosNode.Proofs.Client.Closing
import TezosNode.Proofs.Client.Delivery
import TezosNode.Proofs.Client.Monitors
import TezosNode.Proofs.Client.Observation
import TezosNode.Proofs.Client.Parameters
import TezosNode.Proofs.Client.Probes
import TezosNode.Proofs.Client.Refusals
import TezosNode.Proofs.Client.Wording
import TezosNode.Proofs.Decode.Agreement
import TezosNode.Proofs.Decode.Attention
import TezosNode.Proofs.Decode.Occurrences
import TezosNode.Proofs.Decode.Transcription
import TezosNode.Proofs.Model.Amounts
import TezosNode.Proofs.Model.ErrorLists
import TezosNode.Proofs.Model.Governance
import TezosNode.Proofs.Model.Keyed
import TezosNode.Proofs.Model.Listed
import TezosNode.Proofs.Model.Places
import TezosNode.Proofs.Model.Pools
import TezosNode.Proofs.Model.RoundTrip
import TezosNode.Proofs.Model.Sources
import TezosNode.Proofs.Model.Sums
import TezosNode.Proofs.Model.Totals
import TezosNode.Proofs.Model.Variants
import TezosNode.Proofs.Body.Nesting
import TezosNode.Proofs.Body.Scanning
