import Catalog.App
import Catalog.Model.Writing
import Catalog.Http.Stream
import Catalog.Main
import Catalog.Proofs.Files.Components
import Catalog.Proofs.Files.Growth
import Catalog.Proofs.Files.Names
import Catalog.Proofs.Files.Way
import Catalog.Proofs.Files.Directories
import Catalog.Proofs.Files.Writing
import Catalog.Proofs.Text.Numerals
import Catalog.Proofs.Text.Characters
import Catalog.Proofs.Forms
import Catalog.Proofs.Addresses
import Catalog.Proofs.Prompts
import Catalog.Proofs.Running
import Catalog.Proofs.Saving
import Catalog.Proofs.Exchanges
import Catalog.Proofs.Stages
import Catalog.Proofs.Downloads
import Catalog.Proofs.SavedFiles
import Catalog.Proofs.Finished
import Catalog.Proofs.Unfinished
import Catalog.Proofs.Retry
import Catalog.Proofs.Course
import Catalog.Proofs.Endings
import Catalog.Proofs.Sessions
import Catalog.Proofs.Confinement
import Catalog.Proofs.Requests
import Catalog.Proofs.Selection
import Catalog.Proofs.Attribution
import Catalog.Proofs.Journal
import Catalog.Proofs.Coupling
import Catalog.Proofs.Cookies
import Catalog.Proofs.Headers
import Catalog.Proofs.Misconfiguration
import Catalog.Proofs.Served
import Catalog.Proofs.Parameters
import Catalog.Proofs.LostReplies
import Catalog.Proofs.Locators
import Catalog.Proofs.Queries
import Catalog.Proofs.Payloads
import Catalog.Proofs.Aborts
import Catalog.Proofs.CommandLine.Values
import Catalog.Proofs.CommandLine.Accepted
import Catalog.Proofs.CommandLine.Written
import Catalog.Proofs.Json.Literals
import Catalog.Proofs.Json.Meanings
import Catalog.Proofs.Json.Lexemes
import Catalog.Proofs.Json.Numbers
import Catalog.Proofs.Json.Readings
import Catalog.Proofs.Json.Skipping
import Catalog.Proofs.Json.Records
import Catalog.Proofs.Decoding
import Catalog.Proofs.RoundTrips
import Catalog.Proofs.Reordering
import Catalog.Proofs.Outcomes
import Catalog.Proofs.Endpoints
import Catalog.Proofs.Recording
import Catalog.Proofs.Adjustments
import Catalog.Proofs.Slashes
import Catalog.Proofs.AcceptedPaths
