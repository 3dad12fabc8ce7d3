import BridgeLedger.Binary64
import BridgeLedger.Cluster
import BridgeLedger.Conninfo
import BridgeLedger.Database
import BridgeLedger.Field
import BridgeLedger.FileTree
import BridgeLedger.Hex
import BridgeLedger.IpAddress
import BridgeLedger.LogLevel
import BridgeLedger.Machine
import BridgeLedger.Main
import BridgeLedger.Maintenance
import BridgeLedger.Occurrence
import BridgeLedger.Operation
import BridgeLedger.Percent
import BridgeLedger.Proofs.Administration
import BridgeLedger.Proofs.Calendar
import BridgeLedger.Proofs.ColumnChecks
import BridgeLedger.Proofs.CountedTables
import BridgeLedger.Proofs.CreationTimes
import BridgeLedger.Proofs.DataDirectory
import BridgeLedger.Proofs.DebugLog
import BridgeLedger.Proofs.Delivery
import BridgeLedger.Proofs.Dialling
import BridgeLedger.Proofs.DocumentEntries
import BridgeLedger.Proofs.Effects
import BridgeLedger.Proofs.Footprints
import BridgeLedger.Proofs.Forms
import BridgeLedger.Proofs.GrowingTrees
import BridgeLedger.Proofs.HexText
import BridgeLedger.Proofs.Independence
import BridgeLedger.Proofs.InstantTexts
import BridgeLedger.Proofs.InvisibleSteps
import BridgeLedger.Proofs.Journal
import BridgeLedger.Proofs.KeyOrder
import BridgeLedger.Proofs.LetterCase
import BridgeLedger.Proofs.Lookups
import BridgeLedger.Proofs.LostConnection
import BridgeLedger.Proofs.Machines
import BridgeLedger.Proofs.MoveOnce
import BridgeLedger.Proofs.NewDirectories
import BridgeLedger.Proofs.Omission
import BridgeLedger.Proofs.Paths
import BridgeLedger.Proofs.PendingFaults
import BridgeLedger.Proofs.Phases
import BridgeLedger.Proofs.Planning
import BridgeLedger.Proofs.Rejections
import BridgeLedger.Proofs.RepeatedRuns
import BridgeLedger.Proofs.Repetitions
import BridgeLedger.Proofs.Runs
import BridgeLedger.Proofs.SchemaTransaction
import BridgeLedger.Proofs.SettingsFiles
import BridgeLedger.Proofs.SoundTables
import BridgeLedger.Proofs.Spellings
import BridgeLedger.Proofs.Tables
import BridgeLedger.Proofs.ThrowawayLifetimes
import BridgeLedger.Proofs.TransactionProtocol
import BridgeLedger.Proofs.Transcripts
import BridgeLedger.Proofs.Trees
import BridgeLedger.Proofs.Walks
import BridgeLedger.Provision
import BridgeLedger.Query
import BridgeLedger.Quoted
import BridgeLedger.Record
import BridgeLedger.Schema
import BridgeLedger.Server
import BridgeLedger.Session
import BridgeLedger.Settings
import BridgeLedger.Setup
import BridgeLedger.Throwaway
import BridgeLedger.Timestamp
import BridgeLedger.Toml.Document
import BridgeLedger.Toml.Token
import BridgeLedger.Toml.Value
import BridgeLedger.Unprintable
import BridgeLedger.Utf8
