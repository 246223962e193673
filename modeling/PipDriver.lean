import PipDriver.CommandLine.Run
import PipDriver.Config.Defaults
import PipDriver.Config.Load
import PipDriver.Freeze.Listing
import PipDriver.Host.Scene
import PipDriver.Host.Services
import PipDriver.Main
import PipDriver.Pip.Basic
import PipDriver.Process.Launch
import PipDriver.Toml.Document
import PipDriver.Proofs.FindAcrossDisks
import PipDriver.Proofs.TemporaryNames
import PipDriver.Proofs.Changes
import PipDriver.Proofs.Steps
import PipDriver.Proofs.Storage
import PipDriver.Proofs.Acquisition
import PipDriver.Proofs.Checks
import PipDriver.Proofs.Driving
import PipDriver.Proofs.Refusals
import PipDriver.Proofs.Requirement
import PipDriver.Proofs.Sessions
import PipDriver.Proofs.Reading
import PipDriver.Proofs.Tokens
import PipDriver.Proofs.Quoting
import PipDriver.Proofs.Bytes
import PipDriver.Proofs.Parsing
import PipDriver.Proofs.Keywords
import PipDriver.Proofs.Calling
import PipDriver.Proofs.Strands
import PipDriver.Proofs.LinkFreeWalks
import PipDriver.Proofs.LinkFreePaths
import PipDriver.Proofs.Trees
import PipDriver.Proofs.Parents
import PipDriver.Proofs.SharedCache
import PipDriver.Proofs.SharedCacheInvariant
import PipDriver.Proofs.Guarantees
import PipDriver.Proofs.Folders
import PipDriver.Proofs.Temporaries
import PipDriver.Proofs.Placing
import PipDriver.Proofs.Sharing
import PipDriver.Proofs.AcquiringAlone
import PipDriver.Proofs.Interleaving
import PipDriver.Proofs.Histories
import PipDriver.Proofs.Plans
import PipDriver.Proofs.Options
import PipDriver.Proofs.Preparation
import PipDriver.Proofs.Likeness
import PipDriver.Proofs.Agreement
import PipDriver.Proofs.Secrecy
import PipDriver.Proofs.Whereabouts
import PipDriver.Proofs.Vouching
import PipDriver.Proofs.Listings
import PipDriver.Proofs.ExitCodes
import PipDriver.Proofs.Unlinked
import PipDriver.Proofs.Fetches
import PipDriver.Proofs.Sparing
import PipDriver.Proofs.Provenance
import PipDriver.Proofs.Confinement
import PipDriver.Proofs.Patterns
import PipDriver.Proofs.Eggs
import PipDriver.Proofs.Ancestry
import PipDriver.Proofs.Wholeness
import PipDriver.Proofs.Recognition
import PipDriver.Proofs.Inventory
import PipDriver.Proofs.Beginnings
import PipDriver.Proofs.Entries
import PipDriver.Proofs.Escapes
import PipDriver.Proofs.Orders
import PipDriver.Proofs.Appending
import PipDriver.Proofs.Mirrors
import PipDriver.Proofs.Precedence
import PipDriver.Proofs.Timeouts
import PipDriver.Proofs.Cleaning
import PipDriver.Proofs.Defaults
import PipDriver.Proofs.Identity
