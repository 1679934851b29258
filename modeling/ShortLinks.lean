import ShortLinks.Main
import ShortLinks.Store.Scripted
import ShortLinks.Proofs.Record.Front
import ShortLinks.Proofs.Record.RoundTrip
import ShortLinks.Proofs.Record.Interrupted
import ShortLinks.Proofs.Store.Contents
import ShortLinks.Proofs.Store.Memory
import ShortLinks.Proofs.Log.Index
import ShortLinks.Proofs.Log.Lines
import ShortLinks.Proofs.Log.Compaction
import ShortLinks.Proofs.Log.Torn
import ShortLinks.Proofs.Action
import ShortLinks.Proofs.Disk
import ShortLinks.Proofs.Store.File
import ShortLinks.Proofs.Store.Compaction
import ShortLinks.Proofs.Store.Simulation
import ShortLinks.Proofs.Store.Interruption
import ShortLinks.Proofs.Store.History
import ShortLinks.Proofs.Store.Permanence
import ShortLinks.Proofs.Store.Deletions
import ShortLinks.Proofs.Store.Lawful
import ShortLinks.Proofs.Service.Run
import ShortLinks.Proofs.Service.Deduplication
import ShortLinks.Proofs.Service.Resolution
import ShortLinks.Proofs.Store.Database
import ShortLinks.Proofs.Record.Codec
import ShortLinks.Proofs.Deletion.Delivery
import ShortLinks.Proofs.Service.Isolation
import ShortLinks.Proofs.Store.Tearing
import ShortLinks.Proofs.Settings.Environment
import ShortLinks.Proofs.Settings.Selection
import ShortLinks.Proofs.Store.Settling
import ShortLinks.Proofs.Settings.Masking
import ShortLinks.Proofs.Settings.Secrecy
import ShortLinks.Proofs.Store.SoftDeletion
import ShortLinks.Proofs.Service.Retrying
import ShortLinks.Proofs.Service.Creation
import ShortLinks.Proofs.Service.Batch
import ShortLinks.Proofs.Store.Transaction
import ShortLinks.Proofs.Store.DatabaseBatch
import ShortLinks.Proofs.Store.Reading
import ShortLinks.Proofs.Store.Singly
import ShortLinks.Proofs.Record.AnyOrder
import ShortLinks.Proofs.Identifier.Uniform
import ShortLinks.Proofs.Address.Target
import ShortLinks.Proofs.Disk.Frame
import ShortLinks.Proofs.Store.Obstruction
import ShortLinks.Proofs.Store.Statistics
import ShortLinks.Proofs.Store.Appending
import ShortLinks.Proofs.Service.Redirection
import ShortLinks.Proofs.Identifier.Distinct
import ShortLinks.Proofs.Log.Scanning
import ShortLinks.Proofs.Service.Waiting
