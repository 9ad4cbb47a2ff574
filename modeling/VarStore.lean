import VarStore.Main
import VarStore.Record.Json
import VarStore.Registry
import VarStore.Dataset.Memory
import VarStore.Proofs.Collection.Isolation
import VarStore.Proofs.Collection.Settling
import VarStore.Proofs.Collection.AllOrNothing
import VarStore.Proofs.Collection.Identity
import VarStore.Proofs.Collection.KeyByKey
import VarStore.Proofs.Collection.Narrowing
import VarStore.Proofs.Collection.Failure
import VarStore.Proofs.Collection.History
import VarStore.Proofs.Collection.Noninterference
import VarStore.Proofs.Collection.Order
import VarStore.Proofs.Collection.Representation
import VarStore.Proofs.Collection.Accounting
import VarStore.Proofs.Collection.Upsert
import VarStore.Proofs.Collection.Output
import VarStore.Proofs.Collection.SingleKey
import VarStore.Proofs.Collection.Purge
import VarStore.Proofs.Collection.Place
import VarStore.Proofs.Json.Strings
import VarStore.Proofs.Record.RoundTrip
import VarStore.Proofs.Text.Utf8
import VarStore.Proofs.Registry.Request
import VarStore.Proofs.Registry.Handles
import VarStore.Proofs.Registry.Names
import VarStore.Proofs.Registry.Log
import VarStore.Proofs.Dataset.Loading
import VarStore.Proofs.Dataset.Agreement
import VarStore.Proofs.Regex.Search
import VarStore.Proofs.Regex.Flat
import VarStore.Proofs.Regex.Room
import VarStore.Proofs.Stress.Keys
import VarStore.Proofs.Stress.Workers
import VarStore.Proofs.Clock.Words
import VarStore.Proofs.Entry.Expiry
import VarStore.Proofs.Dataset.Lines
import VarStore.Proofs.Json.Document
import VarStore.Proofs.Dataset.Report
import VarStore.Proofs.File.Resolution
import VarStore.Proofs.Dataset.Classification
import VarStore.Proofs.Regex.Literal
import VarStore.Proofs.Stress.Accounting
import VarStore.Proofs.Config.Fields
import VarStore.Proofs.CommandLine.RoundTrip
import VarStore.Proofs.Dataset.Comments
import VarStore.Proofs.Exclusion.Equality
import VarStore.Proofs.Record.Acceptance
