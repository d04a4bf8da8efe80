import MetaLedger.AddressVectors
import MetaLedger.Report.Remote
import MetaLedger.Report.Workbench
import MetaLedger.Workbench.Fixture
import MetaLedger.Proofs.Address
import MetaLedger.Proofs.Ledger.Entries
import MetaLedger.Proofs.Ledger.Execution
import MetaLedger.Proofs.Ledger.Promotion
import MetaLedger.Proofs.Ledger.Block
import MetaLedger.Proofs.Ledger.PoolInvariant
import MetaLedger.Proofs.Ledger.History
import MetaLedger.Proofs.Ledger.Funding
import MetaLedger.Proofs.Ledger.SealPlacement
import MetaLedger.Proofs.Call
import MetaLedger.Proofs.Ledger.Page
import MetaLedger.Proofs.Ledger.Quiet
import MetaLedger.Proofs.Store.Contents
import MetaLedger.Proofs.Workbench.Completion
import MetaLedger.Proofs.Store.Holds
import MetaLedger.Proofs.Store.Writing
import MetaLedger.Proofs.Store.Listing
import MetaLedger.Proofs.Store.Refinement
import MetaLedger.Proofs.Workbench.Turns
import MetaLedger.Proofs.Filing
import MetaLedger.Proofs.Extrinsic
import MetaLedger.Proofs.Ledger.Ownership
import MetaLedger.Proofs.Signing
import MetaLedger.Proofs.Ledger.PastBlocks
import MetaLedger.Proofs.Store.Filed
import MetaLedger.Proofs.Store.Enumeration
import MetaLedger.Proofs.Workbench.Interleaving
import MetaLedger.Proofs.Store.Steps
import MetaLedger.Proofs.Workbench.Decoding
import MetaLedger.Proofs.Ledger.Contention
import MetaLedger.Proofs.Workbench.NonceRaces
import MetaLedger.Proofs.Ledger.Effects
import MetaLedger.Proofs.Store.Journal
import MetaLedger.Proofs.Ledger.Answers
import MetaLedger.Proofs.Ledger.Watchers
import MetaLedger.Proofs.Workbench.Closing
import MetaLedger.Proofs.Store.Supply
import MetaLedger.Proofs.Workbench.Provenance
import MetaLedger.Proofs.Ledger.Admission
import MetaLedger.Proofs.Ledger.Commitment
import MetaLedger.Proofs.Ledger.Replay
import MetaLedger.Proofs.Ledger.ArrivalOrder
import MetaLedger.Proofs.Ledger.Independence
import MetaLedger.Proofs.Ledger.Costs
import MetaLedger.Proofs.Store.Submitting
import MetaLedger.Proofs.Text.Hex
import MetaLedger.Proofs.Json.RoundTrip
import MetaLedger.Proofs.Remote.Agreement
import MetaLedger.Proofs.Ledger.Scan
import MetaLedger.Proofs.Store.Failing
import MetaLedger.Proofs.Store.Connection
import MetaLedger.Proofs.Store.NonceReading
import MetaLedger.Proofs.WholeInput
import MetaLedger.Proofs.Metadata.Declared
import MetaLedger.Proofs.Remote.Inclusion
import MetaLedger.Proofs.Text.Spelling
import MetaLedger.Proofs.Remote.Refusal
import MetaLedger.Proofs.Store.PageCount
