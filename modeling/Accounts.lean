import Accounts.Table
import Accounts.Transaction
import Accounts.Interleaving
import Accounts.Python
import Accounts.Models
import Accounts.Schemas
import Accounts.Relational
import Accounts.Database
import Accounts.Repositories
import Accounts.Security
import Accounts.Requests
import Accounts.Phases
import Accounts.Atomicity
import Accounts.Ownership
import Accounts.Effects
import Accounts.Isolation
import Accounts.Auth
import Accounts.Sessions
import Accounts.Theft
import Accounts.Lineage
import Accounts.Lifetime
import Accounts.TokenRaces
import Accounts.Revocation
import Accounts.Invites
import Accounts.InviteRaces
import Accounts.InviteLifecycle
import Accounts.References
import Accounts.Noninterference
import Accounts.Encodings
import Accounts.Faces
import Accounts.Identity
import Accounts.Household
import Accounts.PrimaryMember
import Accounts.Emails
import Accounts.Credentials
import Accounts.UnknownFamily
import Accounts.ContextBundle
import Accounts.Registrations
import Accounts.ReadingProfiles
import Accounts.CookieJar
import Accounts.Cookies
import Accounts.Deletions
import Accounts.Verification
import Accounts.Columns
import Accounts.Patches
import Accounts.Bodies
import Accounts.Merges
import Accounts.Upserts
import Accounts.ProfileRaces
import Accounts.Conflicts
import Accounts.Numbers
import Accounts.Serialization
import Accounts.Validation
import Accounts.BulkRevocation
import Accounts.Metering
import Accounts.LoginWork
import Accounts.Gate
import Accounts.Calendar
import Accounts.Ages
import Accounts.Concerns
import Accounts.DisjointFamilies
import Accounts.Projection
import Accounts.Restriction
import Accounts.Tenants
import Accounts.Serializable
import Accounts.Application
import Accounts.ExternalFace
import Accounts.LastWrites
import Accounts.Startup
import Accounts.Clients
import Accounts.AuthStatuses
import Accounts.RowHistories
